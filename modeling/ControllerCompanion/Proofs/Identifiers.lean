import ControllerCompanion.Controller.Naming
import ControllerCompanion.Proofs.TypeRef.Names

set_option autoImplicit false

/-! # Identifiers made of identifiers

What becomes of an identifier that something is put before or behind, or that loses its end. Behind
a word, word characters do no harm. But the `@` that an identifier may begin with cannot stand
anywhere else: nothing can be put before it (`isValid_prepend_iff`), and it is nothing by itself
(`isValid_controllerName_iff`). -/

namespace ControllerCompanion.Identifier

/-! ## Words -/

theorem isWord_append {cs : List Char} (h : cs ≠ []) (tail : List Char) :
    isWord (cs ++ tail) = (isWord cs && tail.all isWordChar) := by
  obtain ⟨c, rest, rfl⟩ := List.exists_cons_of_ne_nil h
  simp [isWord, Bool.and_assoc]

theorem ne_nil_of_isWord {cs : List Char} (h : isWord cs = true) : cs ≠ [] := by
  rintro rfl
  exact absurd h (by decide)

/-- All characters of a word can continue an identifier. -/
theorem all_isWordChar_of_isWord {cs : List Char} (h : isWord cs = true) :
    cs.all isWordChar = true := by
  obtain ⟨c, rest, rfl⟩ := List.exists_cons_of_ne_nil (ne_nil_of_isWord h)
  obtain ⟨hc, hrest⟩ := Bool.and_eq_true_iff.1 h
  rw [List.all_cons, isWordChar_of_isWordStart hc, hrest, Bool.and_true]

/-- A mark is no word character. -/
theorem head?_ne_of_all {cs : List Char} (h : cs.all isWordChar = true) :
    cs.head? ≠ some '@' := by
  intro hhead
  obtain ⟨rest, rfl⟩ := List.head?_eq_some_iff.1 hhead
  have hmark : isWordChar '@' = false := by decide
  rw [List.all_cons, hmark, Bool.false_and] at h
  exact Bool.false_ne_true h

theorem head?_ne_of_isWord {cs : List Char} (h : isWord cs = true) : cs.head? ≠ some '@' :=
  head?_ne_of_all (all_isWordChar_of_isWord h)

/-! ## Identifiers -/

/-- An identifier is a word, or a mark and a word behind it. -/
theorem isValid_iff {name : String} : isValid name = true ↔
    isWord name.toList = true ∨ ∃ rest, name.toList = '@' :: rest ∧ isWord rest = true := by
  unfold isValid withoutMark
  split
  next rest hname =>
    rw [hname]
    constructor
    · intro h
      exact .inr ⟨rest, rfl, h⟩
    · rintro (h | ⟨other, hother, h⟩)
      · exact absurd rfl (head?_ne_of_isWord h)
      · rwa [(List.cons.inj hother).2]
  next cs hcs =>
    constructor
    · exact .inl
    · rintro (h | ⟨rest, hrest, -⟩)
      · exact h
      · exact absurd hrest (hcs rest)

/-- An identifier without a mark is a word. -/
theorem isWord_iff_head?_ne {name : String} (h : isValid name = true) :
    isWord name.toList = true ↔ name.toList.head? ≠ some '@' := by
  constructor
  · exact head?_ne_of_isWord
  · intro hhead
    rcases isValid_iff.1 h with hword | ⟨rest, hrest, -⟩
    · exact hword
    · rw [hrest] at hhead
      exact absurd rfl hhead

/-- An identifier with word characters behind it is one. -/
theorem isValid_append {name tail : String} (hname : isValid name = true)
    (htail : tail.toList.all isWordChar = true) : isValid (name ++ tail) = true := by
  rw [isValid_iff, String.toList_append]
  rcases isValid_iff.1 hname with hword | ⟨rest, hrest, hword⟩
  · left
    rw [isWord_append (ne_nil_of_isWord hword), hword, htail, Bool.and_true]
  · right
    refine ⟨rest ++ tail.toList, by rw [hrest, List.cons_append], ?_⟩
    rw [isWord_append (ne_nil_of_isWord hword), hword, htail, Bool.and_true]

/-- A word and an identifier behind it are one exactly if the identifier has no mark. -/
theorem isValid_prepend_iff {before name : String} (hbefore : isWord before.toList = true)
    (hname : isValid name = true) :
    isValid (before ++ name) = true ↔ name.toList.head? ≠ some '@' := by
  have hhead : (before ++ name).toList.head? ≠ some '@' := by
    rw [String.toList_append, List.head?_append_of_ne_nil _ (ne_nil_of_isWord hbefore)]
    exact head?_ne_of_isWord hbefore
  have hall : isWord (before ++ name).toList = name.toList.all isWordChar := by
    rw [String.toList_append, isWord_append (ne_nil_of_isWord hbefore), hbefore, Bool.true_and]
  constructor
  · intro h hmark
    obtain ⟨rest, hrest⟩ := List.head?_eq_some_iff.1 hmark
    rw [← isWord_iff_head?_ne h, hall, hrest] at hhead
    exact absurd hhead (by simp [show isWordChar '@' = false by decide])
  · intro hmark
    have hword := (isWord_iff_head?_ne hname).2 hmark
    refine isValid_iff.2 (.inl ?_)
    rw [hall]
    exact all_isWordChar_of_isWord hword

/-- What an identifier begins with is one too, unless it is the mark alone. -/
theorem isValid_stem_iff {name : String} {stem tail : List Char} (h : isValid name = true)
    (hname : name.toList = stem ++ tail) (hstem : stem ≠ []) :
    isValid (String.ofList stem) = true ↔ stem ≠ ['@'] := by
  rw [isValid_iff, String.toList_ofList]
  rcases isValid_iff.1 h with hword | ⟨rest, hrest, hword⟩
  · rw [hname, isWord_append hstem, Bool.and_eq_true_iff] at hword
    constructor
    · rintro - rfl
      exact absurd hword.1 (by decide)
    · intro _
      exact .inl hword.1
  · obtain ⟨c, inner, rfl⟩ := List.exists_cons_of_ne_nil hstem
    rw [hname, List.cons_append, List.cons.injEq] at hrest
    obtain ⟨rfl, rfl⟩ := hrest
    constructor
    · rintro (hstart | ⟨other, hother, hinner⟩) hmark
      · exact head?_ne_of_isWord hstart rfl
      · rw [hmark, List.cons.injEq] at hother
        exact ne_nil_of_isWord hinner hother.2.symm
    · intro hmark
      have hinner : inner ≠ [] := by
        rintro rfl
        exact hmark rfl
      rw [isWord_append hinner, Bool.and_eq_true_iff] at hword
      exact .inr ⟨inner, rfl, hword.1⟩

/-! ## Names of controllers -/

/-- The name of a controller is the declared one, or what stands before the suffix. -/
theorem controllerName_eq_or (declared : String) :
    controllerName declared = declared ∨
      ∃ stem ≠ [], declared.toList = stem ++ controllerSuffix ∧
        controllerName declared = String.ofList stem := by
  unfold controllerName
  simp only
  split
  next h =>
    obtain ⟨hsuffix, hstem⟩ := h
    obtain ⟨stem, hdeclared⟩ := List.isSuffixOf_iff_suffix.1 hsuffix
    have htake : declared.toList.take (declared.toList.length - controllerSuffix.length)
        = stem := by
      rw [← hdeclared, List.length_append, Nat.add_sub_cancel, List.take_left']
      rfl
    rw [htake] at hstem ⊢
    exact .inr ⟨stem, hstem, hdeclared.symm, rfl⟩
  next => exact .inl rfl

/-- The name of a controller is an identifier unless nothing but the mark is left. -/
theorem isValid_controllerName_iff {declared : String} (h : isValid declared = true) :
    isValid (controllerName declared) = true ↔ declared ≠ "@Controller" := by
  rcases controllerName_eq_or declared with heq | ⟨stem, hstem, hdeclared, heq⟩
  · rw [heq]
    constructor
    · rintro - rfl
      exact absurd heq (by decide)
    · intro _
      exact h
  · have hlist : "@Controller".toList = ['@'] ++ controllerSuffix := by decide
    rw [heq, isValid_stem_iff h hdeclared hstem, Ne, Ne, ← String.toList_inj, hdeclared, hlist,
      List.append_cancel_right_eq]

end ControllerCompanion.Identifier
