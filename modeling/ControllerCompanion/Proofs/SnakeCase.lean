import ControllerCompanion.Proofs.Splitting
import ControllerCompanion.Text.SnakeCase

set_option autoImplicit false

/-! # The characters of names in snake case

Whatever a name holds, what is kept of it are letters and numbers, in lower case. So its snake case
has no mark of ASCII but the underscore (`isHarmless_of_mem_snakeCase`), and it can be part of a
file name. -/

namespace ControllerCompanion

open Unicode

namespace Text

/-- A character that is no mark of ASCII, apart from the underscore, and no capital of ASCII. -/
def isHarmless (c : Char) : Bool := c.isLower || c.isDigit || c == '_' || 0x80 ≤ c.toNat

/-! ## Lower case -/

/-- A shift is that of a row of the table that the number lies in. -/
theorem exists_row_of_shift? {n : Nat} {shift : Int} {table : List (Nat × Nat × Nat × Int)}
    (h : shift? n table = some shift) :
    ∃ first last step, (first, last, step, shift) ∈ table ∧ first ≤ n ∧ n ≤ last := by
  induction table with
  | nil => cases h
  | cons row rest ih =>
      obtain ⟨first, last, step, other⟩ := row
      rw [shift?] at h
      by_cases hfirst : n < first
      · rw [if_pos hfirst] at h
        cases h
      rw [if_neg hfirst] at h
      by_cases hlast : n ≤ last
      · rw [if_pos hlast] at h
        split at h
        · obtain rfl := Option.some.inj h
          exact ⟨first, last, step, List.mem_cons_self, by omega, hlast⟩
        · cases h
      · rw [if_neg hlast] at h
        obtain ⟨first', last', step', hrow, hin⟩ := ih h
        exact ⟨first', last', step', List.mem_cons_of_mem _ hrow, hin⟩

/-- The lower-case form of a code point that has one is one of ASCII's lower-case letters, or it
    lies outside ASCII. -/
theorem shifted_bounds {n : Nat} {shift : Int} (h : shift? n lowering = some shift) :
    (0x61 ≤ n + shift ∧ n + shift ≤ 0x7a) ∨ (0x80 ≤ n + shift ∧ n + shift < 0xd800) ∨
      (0xe000 ≤ n + shift ∧ n + shift < 0x110000) := by
  have hrows : ∀ row ∈ lowering,
      (0x61 ≤ row.1 + row.2.2.2 ∧ row.2.1 + row.2.2.2 ≤ 0x7a) ∨
        (0x80 ≤ row.1 + row.2.2.2 ∧ row.2.1 + row.2.2.2 < 0xd800) ∨
        (0xe000 ≤ row.1 + row.2.2.2 ∧ row.2.1 + row.2.2.2 < 0x110000) := by
    decide +kernel
  obtain ⟨first, last, step, hrow, hfirst, hlast⟩ := exists_row_of_shift? h
  have hbounds := hrows _ hrow
  dsimp only at hbounds
  omega

theorem toNat_ofNat {n : Nat} (h : n.isValidChar) : (Char.ofNat n).toNat = n := by
  rw [Char.ofNat, dif_pos h]
  rfl

theorem isHarmless_of_bounds {c : Char}
    (h : (0x61 ≤ c.toNat ∧ c.toNat ≤ 0x7a) ∨ 0x80 ≤ c.toNat) : isHarmless c = true := by
  rcases h with ⟨hfirst, hlast⟩ | houtside
  · have hlower : c.isLower = true := by
      show (decide ('a'.val ≤ c.val) && decide (c.val ≤ 'z'.val)) = true
      simp only [Bool.and_eq_true, decide_eq_true_eq, UInt32.le_iff_toNat_le]
      exact ⟨hfirst, hlast⟩
    simp [isHarmless, hlower]
  · simp [isHarmless, houtside]

/-- The letters and numbers of ASCII without a lower-case form of their own are harmless. -/
theorem isHarmless_of_isAlphanumeric {c : Char} (hc : isAlphanumeric c = true)
    (hshift : shift? c.toNat lowering = none) : isHarmless c = true := by
  have hascii : ∀ n < 0x80, (inIntervals n alphabetic || inIntervals n numeric) = true →
      shift? n lowering = none → isHarmless (Char.ofNat n) = true := by
    decide +kernel
  by_cases houtside : 0x80 ≤ c.toNat
  · exact isHarmless_of_bounds (.inr houtside)
  · have hharmless := hascii c.toNat (Nat.lt_of_not_le houtside) hc hshift
    rwa [Char.ofNat_toNat] at hharmless

theorem isHarmless_of_mem_lower {c d : Char} (hc : isAlphanumeric c = true) (hd : d ∈ lower c) :
    isHarmless d = true := by
  unfold lower at hd
  split at hd
  · have hdotted : ['i', '\u0307'].all isHarmless = true := by decide
    exact List.all_eq_true.1 hdotted d hd
  split at hd
  next shift hshift =>
    have hbounds := shifted_bounds hshift
    obtain rfl := List.mem_singleton.1 hd
    have hvalid : (c.toNat + shift).toNat.isValidChar := by
      unfold Nat.isValidChar
      omega
    refine isHarmless_of_bounds ?_
    rw [toNat_ofNat hvalid]
    omega
  next hshift =>
    obtain rfl := List.mem_singleton.1 hd
    exact isHarmless_of_isAlphanumeric hc hshift

/-! ## Words -/

/-- The words of a run hold nothing but what stands in the run. -/
theorem mem_of_mem_wordsFrom {seen : CaseSeen} {word run w : List Char} {c : Char}
    (hw : w ∈ wordsFrom seen word run) (hc : c ∈ w) : c ∈ word ∨ c ∈ run := by
  fun_induction wordsFrom seen word run with
  | case1 => cases hw
  | case2 seen word d =>
      obtain rfl := List.mem_singleton.1 hw
      exact List.mem_append.1 hc
  | case3 seen word d next rest _ ih =>
      -- a word ends behind the character
      rcases List.mem_cons.1 hw with rfl | hw
      · rcases List.mem_append.1 hc with hword | hd
        · exact .inl hword
        · exact .inr (List.mem_append_left (next :: rest) hd)
      · rcases ih hw with hnil | hrest
        · cases hnil
        · exact .inr (List.mem_cons_of_mem d hrest)
  | case4 seen word d next rest _ _ ih =>
      -- a word ends before the character
      rcases List.mem_cons.1 hw with rfl | hw
      · exact .inl hc
      · rcases ih hw with hd | hrest
        · exact .inr (List.mem_append_left (next :: rest) hd)
        · exact .inr (List.mem_cons_of_mem d hrest)
  | case5 seen word d next rest _ _ ih =>
      rcases ih hw with hword | hrest
      · rcases List.mem_append.1 hword with hword | hd
        · exact .inl hword
        · exact .inr (List.mem_append_left (next :: rest) hd)
      · exact .inr (List.mem_cons_of_mem d hrest)

theorem isAlphanumeric_of_mem_words {name w : List Char} {c : Char} (hw : w ∈ words name)
    (hc : c ∈ w) : isAlphanumeric c = true := by
  obtain ⟨run, hrun, hw⟩ := List.mem_flatMap.1 hw
  rcases mem_of_mem_wordsFrom hw hc with hnil | hc
  · exact absurd hnil List.not_mem_nil
  · simpa using (Splitting.mem_of_mem_splitOnP hrun hc).2

theorem isHarmless_of_mem_lowerWord {w : List Char} {c : Char}
    (hw : ∀ d ∈ w, isAlphanumeric d = true) (hc : c ∈ lowerWord w) : isHarmless c = true := by
  fun_induction lowerWord w with
  | case1 => cases hc
  | case2 =>
      obtain rfl := List.mem_singleton.1 hc
      decide
  | case3 d _ => exact isHarmless_of_mem_lower (hw d (List.mem_singleton_self d)) hc
  | case4 d rest _ ih =>
      rcases List.mem_append.1 hc with hd | hrest
      · exact isHarmless_of_mem_lower (hw d List.mem_cons_self) hd
      · exact ih (fun d hd => hw d (List.mem_cons_of_mem _ hd)) hrest

/-- **A name in snake case has no character of ASCII but lower-case letters, digits and
underscores**, whatever the name is. -/
theorem isHarmless_of_mem_snakeCase {name : String} {c : Char}
    (hc : c ∈ (snakeCase name).toList) : isHarmless c = true := by
  rw [snakeCase, String.toList_ofList] at hc
  rcases Splitting.eq_or_mem_of_mem_intercalate hc with rfl | ⟨part, hpart, hc⟩
  · decide
  · obtain ⟨w, hw, rfl⟩ := List.mem_map.1 hpart
    exact isHarmless_of_mem_lowerWord (fun d hd => isAlphanumeric_of_mem_words hw hd) hc

end Text

end ControllerCompanion
