import ControllerCompanion.Proofs.Identifiers

set_option autoImplicit false

/-! # Identifiers for arbitrary names

What any text is turned into when an identifier is needed for it. The result is never a reserved
keyword (`isReserved_sanitize`), and it is an identifier unless the text begins with a number that
is neither a letter nor an ASCII digit: such a number cannot begin an identifier, yet nothing is put
before it (`isValid_sanitize_iff`).

Masking and the underscore before an empty name or a digit can make two names one; the mark before a
keyword cannot, as it is taken off again (`withoutMark_withMark`). It is the mark, in turn, that
does not last when the result is turned into an identifier once more
(`sanitize_collides_iff_and_stays_iff`). -/

namespace ControllerCompanion.Identifier

open Unicode

/-! ## Masked names -/

theorem toNat_bounds_of_isDigit {c : Char} (h : c.isDigit = true) :
    0x30 ≤ c.toNat ∧ c.toNat ≤ 0x39 := by
  simp only [Char.isDigit, Bool.and_eq_true, decide_eq_true_eq] at h
  exact h

theorem isWordChar_of_isDigit {c : Char} (h : c.isDigit = true) : isWordChar c = true := by
  have hrange := toNat_bounds_of_isDigit h
  have hnumeric : isNumeric c = true := by
    unfold isNumeric numeric inIntervals
    rw [if_neg (by omega), if_pos (by omega)]
  simp [isWordChar, isAlphanumeric, hnumeric]

/-- An ASCII digit cannot begin an identifier. -/
theorem isWordStart_eq_false_of_isDigit {c : Char} (h : c.isDigit = true) :
    isWordStart c = false := by
  have hrange := toNat_bounds_of_isDigit h
  have halphabetic : isAlphabetic c = false := by
    -- the letters begin behind the digits
    unfold isAlphabetic alphabetic inIntervals
    rw [if_pos (by omega)]
  have hunderscore : c ≠ '_' := by
    rintro rfl
    exact absurd h (by decide)
  simp [isWordStart, halphabetic, hunderscore]

/-- Masking neither makes a digit nor takes one away. -/
theorem isDigit_masked (c : Char) : (if isWordChar c then c else '_').isDigit = c.isDigit := by
  by_cases hc : isWordChar c = true
  · rw [if_pos hc]
  · rw [if_neg hc]
    cases hdigit : c.isDigit with
    | false => rfl
    | true => exact absurd (isWordChar_of_isDigit hdigit) hc

/-- A masked character can begin an identifier unless it is a number and no letter. -/
theorem isWordStart_masked_iff (c : Char) :
    isWordStart (if isWordChar c then c else '_') = true ↔
      (isNumeric c = true → isAlphabetic c = true) := by
  by_cases hc : isWordChar c = true
  · rw [if_pos hc]
    constructor
    · intro hstart hnumeric
      rcases Bool.or_eq_true_iff.1 hstart with h | h
      · exact h
      · -- the underscore is no number
        rw [beq_iff_eq.1 h] at hnumeric
        exact absurd hnumeric (by decide)
    · intro h
      rcases Bool.or_eq_true_iff.1 hc with hletter | hunderscore
      · rcases Bool.or_eq_true_iff.1 hletter with halphabetic | hnumeric
        · simp [isWordStart, halphabetic]
        · simp [isWordStart, h hnumeric]
      · simp [isWordStart, hunderscore]
  · rw [if_neg hc]
    constructor
    · intro _ hnumeric
      exact absurd (by simp [isWordChar, isAlphanumeric, hnumeric]) hc
    · intro _
      decide

/-- All characters of a masked name can continue an identifier. -/
theorem all_isWordChar_mask (cs : List Char) : (mask cs).all isWordChar = true := by
  rw [mask, List.all_map, List.all_eq_true]
  intro c _
  show isWordChar (if isWordChar c then c else '_') = true
  by_cases hc : isWordChar c = true
  · rw [if_pos hc]
    exact hc
  · rw [if_neg hc]
    decide

/-- Whether a masked name is an identifier by itself depends on the first character. -/
theorem isWord_mask_cons_iff (c : Char) (cs : List Char) :
    isWord (mask (c :: cs)) = true ↔ (isNumeric c = true → isAlphabetic c = true) := by
  have htail := all_isWordChar_mask cs
  rw [← isWordStart_masked_iff]
  show (isWordStart (if isWordChar c then c else '_') && (mask cs).all isWordChar) = true ↔ _
  rw [htail, Bool.and_true]

/-! ## The three results -/

/-- A name becomes its masked form, behind an underscore if it needs one, or else behind a mark if
it is reserved. -/
theorem sanitize_cases (name : String) :
    (needsUnderscore (mask name.toList) = true ∧
        (sanitize name).toList = '_' :: mask name.toList) ∨
      (needsUnderscore (mask name.toList) = false ∧
        isReserved (String.ofList (mask name.toList)) = true ∧
        (sanitize name).toList = '@' :: mask name.toList) ∨
      (needsUnderscore (mask name.toList) = false ∧
        isReserved (String.ofList (mask name.toList)) = false ∧
        (sanitize name).toList = mask name.toList) := by
  unfold sanitize
  simp only
  by_cases hunderscore : needsUnderscore (mask name.toList) = true
  · rw [if_pos hunderscore]
    exact .inl ⟨hunderscore, String.toList_ofList⟩
  · rw [if_neg hunderscore]
    have hplain := Bool.eq_false_iff.2 hunderscore
    by_cases hreserved : isReserved (String.ofList (mask name.toList)) = true
    · rw [if_pos hreserved]
      exact .inr (.inl ⟨hplain, hreserved, String.toList_ofList⟩)
    · rw [if_neg hreserved]
      exact .inr (.inr ⟨hplain, Bool.eq_false_iff.2 hreserved, String.toList_ofList⟩)

/-- A reserved keyword is a word that begins with a letter. -/
theorem isWord_of_isReserved {name : String} (h : isReserved name = true) :
    isWord name.toList = true ∧ name.toList.head? ≠ some '_' := by
  have hall : ∀ keyword ∈ reservedKeywords,
      isWord keyword.toList = true ∧ keyword.toList.head? ≠ some '_' := by
    decide +kernel
  exact hall name (List.contains_iff_mem.1 h)

/-- What a name becomes is never a reserved keyword. -/
theorem isReserved_sanitize (name : String) : isReserved (sanitize name) = false := by
  by_contra h
  rw [Bool.not_eq_false] at h
  obtain ⟨hword, hhead⟩ := isWord_of_isReserved h
  rcases sanitize_cases name with ⟨-, hresult⟩ | ⟨-, -, hresult⟩ | ⟨-, hfree, hresult⟩
  · rw [hresult] at hhead
    exact hhead rfl
  · rw [hresult] at hword
    exact head?_ne_of_isWord hword rfl
  · rw [← hresult, String.ofList_toList, h] at hfree
    exact Bool.noConfusion hfree

/-- **What a name becomes is never reserved, and it is an identifier exactly if the name does not
begin with a number other than a letter or an ASCII digit.** -/
theorem isValid_sanitize_iff (name : String) :
    isReserved (sanitize name) = false ∧
      (isValid (sanitize name) = true ↔
        ∀ c ∈ name.toList.head?,
          isNumeric c = true → isAlphabetic c = true ∨ c.isDigit = true) := by
  refine ⟨isReserved_sanitize name, ?_⟩
  have hvalid := @isValid_iff (sanitize name)
  rcases sanitize_cases name with ⟨hneeds, hresult⟩ | ⟨hplain, hreserved, hresult⟩ |
    ⟨hplain, -, hresult⟩
  · -- nothing is wrong behind an underscore, and the name is empty or begins with a digit
    have hword : isWord (sanitize name).toList = true := by
      rw [hresult, isWord, all_isWordChar_mask, Bool.and_true]
      decide
    refine iff_of_true (hvalid.2 (.inl hword)) ?_
    intro c hc _
    obtain ⟨rest, hname⟩ := List.head?_eq_some_iff.1 hc
    rw [hname] at hneeds
    right
    rw [← isDigit_masked]
    exact hneeds
  · -- the masked name is a keyword, so it is a word
    have hword := (isWord_of_isReserved hreserved).1
    rw [String.toList_ofList] at hword
    refine iff_of_true (hvalid.2 (.inr ⟨_, hresult, hword⟩)) ?_
    intro c hc hnumeric
    obtain ⟨rest, hname⟩ := List.head?_eq_some_iff.1 hc
    rw [hname] at hword
    exact .inl ((isWord_mask_cons_iff c rest).1 hword hnumeric)
  · cases hname : name.toList with
    | nil =>
        rw [hname] at hplain
        exact absurd hplain (by decide)
    | cons c rest =>
        rw [hname] at hplain hresult
        have hdigit : c.isDigit = false := by
          rw [← isDigit_masked]
          exact hplain
        have hword : isValid (sanitize name) = true ↔ isWord (mask (c :: rest)) = true := by
          rw [hvalid, hresult, or_iff_left_iff_imp]
          rintro ⟨inner, hinner, -⟩
          -- a mark is no character of a masked name
          have hall := all_isWordChar_mask (c :: rest)
          rw [hinner, List.all_cons, show isWordChar '@' = false by decide, Bool.false_and] at hall
          exact Bool.noConfusion hall
        rw [hword, isWord_mask_cons_iff]
        simp [hdigit]

/-- A name that begins with a fraction is kept, though nothing can begin with a fraction. -/
theorem not_isValid_sanitize_fraction :
    ¬∀ name : String, isValid (sanitize name) = true ∧ isReserved (sanitize name) = false := by
  intro hall
  obtain ⟨hvalid, -⟩ := hall "½"
  have hresult : isValid (sanitize "½") = false := by
    decide +kernel
  rw [hresult] at hvalid
  exact Bool.noConfusion hvalid

/-! ## Underscores -/

/-- A masked name behind the underscore that it may need. -/
def withUnderscore (cs : List Char) : List Char := if needsUnderscore cs then '_' :: cs else cs

/-- `long` is `short` behind an underscore, and `short` needs one: it is empty or begins with an
    ASCII digit. -/
structure IsUnderscored (short long : List Char) : Prop where
  needs : short = [] ∨ ∃ c rest, short = c :: rest ∧ c.isDigit = true
  eq : long = '_' :: short

@[simp]
theorem needsUnderscore_underscore (cs : List Char) : needsUnderscore ('_' :: cs) = false := rfl

theorem needsUnderscore_iff {cs : List Char} :
    needsUnderscore cs = true ↔ cs = [] ∨ ∃ c rest, cs = c :: rest ∧ c.isDigit = true := by
  cases cs with
  | nil => simp [needsUnderscore]
  | cons c rest => simp [needsUnderscore]

theorem withUnderscore_of_needs {cs : List Char} (h : needsUnderscore cs = true) :
    withUnderscore cs = '_' :: cs :=
  if_pos h

theorem withUnderscore_eq_self {cs : List Char} (h : needsUnderscore cs = false) :
    withUnderscore cs = cs :=
  if_neg (Bool.eq_false_iff.1 h)

theorem needsUnderscore_withUnderscore (cs : List Char) :
    needsUnderscore (withUnderscore cs) = false := by
  cases h : needsUnderscore cs with
  | true => rw [withUnderscore_of_needs h, needsUnderscore_underscore]
  | false => rw [withUnderscore_eq_self h, h]

theorem IsUnderscored.withUnderscore_eq {short long : List Char} (h : IsUnderscored short long) :
    withUnderscore short = withUnderscore long := by
  rw [withUnderscore_of_needs (needsUnderscore_iff.2 h.needs), h.eq,
    withUnderscore_eq_self (needsUnderscore_underscore short)]

/-- Two names are the same behind the underscores that they need exactly if they are the same, or
    one is the other one behind its underscore. -/
theorem withUnderscore_eq_iff {cs ds : List Char} :
    withUnderscore cs = withUnderscore ds ↔
      cs = ds ∨ IsUnderscored cs ds ∨ IsUnderscored ds cs := by
  constructor
  · intro h
    cases hcs : needsUnderscore cs with
    | true =>
        rw [withUnderscore_of_needs hcs] at h
        cases hds : needsUnderscore ds with
        | true =>
            rw [withUnderscore_of_needs hds] at h
            exact .inl (List.cons.inj h).2
        | false =>
            rw [withUnderscore_eq_self hds] at h
            exact .inr (.inl ⟨needsUnderscore_iff.1 hcs, h.symm⟩)
    | false =>
        rw [withUnderscore_eq_self hcs] at h
        cases hds : needsUnderscore ds with
        | true =>
            rw [withUnderscore_of_needs hds] at h
            exact .inr (.inr ⟨needsUnderscore_iff.1 hds, h⟩)
        | false =>
            rw [withUnderscore_eq_self hds] at h
            exact .inl h
  · rintro (rfl | h | h)
    · rfl
    · exact h.withUnderscore_eq
    · exact h.withUnderscore_eq.symm

theorem all_isWordChar_withUnderscore_mask (cs : List Char) :
    (withUnderscore (mask cs)).all isWordChar = true := by
  have hall := all_isWordChar_mask cs
  cases h : needsUnderscore (mask cs) with
  | true =>
      rw [withUnderscore_of_needs h, List.all_cons, hall, Bool.and_true]
      decide
  | false => rw [withUnderscore_eq_self h, hall]

/-! ## Marks -/

/-- A name behind the mark that it needs if it is reserved. -/
def withMark (cs : List Char) : List Char :=
  if isReserved (String.ofList cs) then '@' :: cs else cs

theorem withMark_of_isReserved {cs : List Char} (h : isReserved (String.ofList cs) = true) :
    withMark cs = '@' :: cs :=
  if_pos h

theorem withMark_eq_self {cs : List Char} (h : isReserved (String.ofList cs) = false) :
    withMark cs = cs :=
  if_neg (Bool.eq_false_iff.1 h)

/-- The mark can be taken off again, so it keeps names apart. -/
theorem withoutMark_withMark {cs : List Char} (h : cs.all isWordChar = true) :
    withoutMark (withMark cs) = cs := by
  cases hreserved : isReserved (String.ofList cs) with
  | true => rw [withMark_of_isReserved hreserved, withoutMark]
  | false =>
      rw [withMark_eq_self hreserved]
      unfold withoutMark
      split
      next rest => exact absurd rfl (head?_ne_of_all h)
      next => rfl

/-- No keyword begins with an underscore. -/
theorem isReserved_underscore (cs : List Char) :
    isReserved (String.ofList ('_' :: cs)) = false := by
  by_contra h
  rw [Bool.not_eq_false] at h
  have hhead := (isWord_of_isReserved h).2
  rw [String.toList_ofList] at hhead
  exact hhead rfl

theorem needsUnderscore_of_isWord {cs : List Char} (h : isWord cs = true) :
    needsUnderscore cs = false := by
  obtain ⟨c, rest, rfl⟩ := List.exists_cons_of_ne_nil (ne_nil_of_isWord h)
  have hstart := (Bool.and_eq_true_iff.1 h).1
  cases hdigit : needsUnderscore (c :: rest) with
  | false => rfl
  | true =>
      rw [isWordStart_eq_false_of_isDigit hdigit] at hstart
      exact Bool.noConfusion hstart

/-- No keyword needs an underscore. -/
theorem needsUnderscore_of_isReserved {cs : List Char}
    (h : isReserved (String.ofList cs) = true) : needsUnderscore cs = false := by
  have hword := (isWord_of_isReserved h).1
  rw [String.toList_ofList] at hword
  exact needsUnderscore_of_isWord hword

/-- An underscore neither makes a keyword nor takes one away. -/
theorem isReserved_withUnderscore (cs : List Char) :
    isReserved (String.ofList (withUnderscore cs)) = isReserved (String.ofList cs) := by
  cases hneeds : needsUnderscore cs with
  | false => rw [withUnderscore_eq_self hneeds]
  | true =>
      rw [withUnderscore_of_needs hneeds, isReserved_underscore]
      cases hreserved : isReserved (String.ofList cs) with
      | false => rfl
      | true =>
          rw [needsUnderscore_of_isReserved hreserved] at hneeds
          exact Bool.noConfusion hneeds

/-! ## Collisions -/

/-- A name is masked, then it gets its underscore, then its mark. -/
theorem toList_sanitize (name : String) :
    (sanitize name).toList = withMark (withUnderscore (mask name.toList)) := by
  rcases sanitize_cases name with ⟨hneeds, hresult⟩ | ⟨hplain, hreserved, hresult⟩ |
    ⟨hplain, hfree, hresult⟩
  · rw [hresult, withUnderscore_of_needs hneeds, withMark_eq_self (isReserved_underscore _)]
  · rw [hresult, withUnderscore_eq_self hplain, withMark_of_isReserved hreserved]
  · rw [hresult, withUnderscore_eq_self hplain, withMark_eq_self hfree]

/-- Names collide before they are marked or not at all. -/
theorem sanitize_eq_iff {s t : String} :
    sanitize s = sanitize t ↔
      withUnderscore (mask s.toList) = withUnderscore (mask t.toList) := by
  rw [← String.toList_inj, toList_sanitize, toList_sanitize]
  constructor
  · intro h
    have hs := withoutMark_withMark (all_isWordChar_withUnderscore_mask s.toList)
    have ht := withoutMark_withMark (all_isWordChar_withUnderscore_mask t.toList)
    rw [← hs, h, ht]
  · intro h
    rw [h]

/-! ## The second time -/

theorem mask_eq_self {cs : List Char} (h : cs.all isWordChar = true) : mask cs = cs := by
  have hkept : ∀ c ∈ cs, (if isWordChar c then c else '_') = c := fun c hc =>
    if_pos (List.all_eq_true.1 h c hc)
  rw [mask, List.map_congr_left hkept, List.map_id']

/-- A name that is not reserved when masked becomes one that stays as it is. -/
theorem sanitize_sanitize_of_not_reserved {name : String}
    (h : isReserved (String.ofList (mask name.toList)) = false) :
    sanitize (sanitize name) = sanitize name := by
  have hresult : (sanitize name).toList = withUnderscore (mask name.toList) := by
    rw [toList_sanitize, withMark_eq_self ((isReserved_withUnderscore _).trans h)]
  rw [sanitize_eq_iff, hresult, mask_eq_self (all_isWordChar_withUnderscore_mask _),
    withUnderscore_eq_self (needsUnderscore_withUnderscore _)]

/-- A keyword is marked, and the second time its mark is masked. -/
theorem sanitize_of_reserved {name : String}
    (h : isReserved (String.ofList (mask name.toList)) = true) :
    (sanitize name).toList = '@' :: mask name.toList
      ∧ (sanitize (sanitize name)).toList = '_' :: mask name.toList := by
  have hresult : (sanitize name).toList = '@' :: mask name.toList := by
    rw [toList_sanitize, withUnderscore_eq_self (needsUnderscore_of_isReserved h),
      withMark_of_isReserved h]
  have hmask : mask ('@' :: mask name.toList) = '_' :: mask name.toList := by
    rw [mask, List.map_cons, ← mask, mask_eq_self (all_isWordChar_mask _)]
    rfl
  refine ⟨hresult, ?_⟩
  rw [toList_sanitize, hresult, hmask, withUnderscore_eq_self (needsUnderscore_underscore _),
    withMark_eq_self (isReserved_underscore _)]

/-- **Two names collide exactly if they are masked alike, or one masked name is the other one behind
the underscore that it needs. What a name becomes stays as it is the second time exactly if the
masked name is no keyword:** the mark of a keyword becomes an underscore. -/
theorem sanitize_collides_iff_and_stays_iff (s t : String) :
    (sanitize s = sanitize t ↔
        mask s.toList = mask t.toList
          ∨ IsUnderscored (mask s.toList) (mask t.toList)
          ∨ IsUnderscored (mask t.toList) (mask s.toList))
      ∧ (sanitize (sanitize s) = sanitize s ↔
        String.ofList (mask s.toList) ∉ reservedKeywords)
      ∧ ∀ keyword ∈ reservedKeywords, String.ofList (mask s.toList) = keyword →
        sanitize (sanitize s) = "_" ++ keyword := by
  refine ⟨sanitize_eq_iff.trans withUnderscore_eq_iff, ⟨?_, ?_⟩, ?_⟩
  · intro hstays hmem
    obtain ⟨honce, htwice⟩ := sanitize_of_reserved (List.contains_iff_mem.2 hmem)
    rw [hstays, honce, List.cons.injEq] at htwice
    exact absurd htwice.1 (by decide)
  · intro hfree
    refine sanitize_sanitize_of_not_reserved (Bool.eq_false_iff.2 fun hreserved => ?_)
    exact hfree (List.contains_iff_mem.1 hreserved)
  · rintro keyword hkeyword rfl
    obtain ⟨-, htwice⟩ := sanitize_of_reserved (List.contains_iff_mem.2 hkeyword)
    have hkept : (String.ofList (mask s.toList)).toList = mask s.toList := String.toList_ofList
    rw [← String.toList_inj, htwice, String.toList_append, hkept]
    rfl

/-- A number collides with itself behind an underscore, and a keyword becomes something else the
second time. -/
theorem sanitize_numbered_and_class :
    sanitize "404" = sanitize "_404"
      ∧ "class" ∈ reservedKeywords ∧ sanitize (sanitize "class") = "_class" := by
  have hclass : "class" ∈ reservedKeywords := by decide
  have hmasked : String.ofList (mask "class".toList) = "class" := by decide +kernel
  refine ⟨(sanitize_collides_iff_and_stays_iff "404" "_404").1.2 (.inr (.inl ⟨.inr ?_, ?_⟩)),
    hclass, (sanitize_collides_iff_and_stays_iff "class" "class").2.2 "class" hclass hmasked⟩
  · exact ⟨'4', mask ['0', '4'], by decide +kernel, by decide⟩
  · decide +kernel

end ControllerCompanion.Identifier
