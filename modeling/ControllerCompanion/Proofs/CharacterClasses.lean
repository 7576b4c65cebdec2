import ControllerCompanion.TypeRef.Reader
import Mathlib.Data.List.Flatten

set_option autoImplicit false

/-! # Character classes that exclude each other

The parts of a type reference are told apart by their characters: a blank is no name character,
and the marks around arguments and suffixes are neither. -/

namespace ControllerCompanion

open Unicode

/-! ## Blanks -/

/-- A number found in a table lies in one of its intervals. -/
theorem mem_intervals_of_inIntervals {n : Nat} {table : List (Nat × Nat)}
    (h : inIntervals n table = true) :
    n ∈ table.flatMap fun p => List.range' p.1 (p.2 + 1 - p.1) := by
  induction table with
  | nil => simp [inIntervals] at h
  | cons p rest ih =>
      obtain ⟨first, last⟩ := p
      simp only [inIntervals] at h
      simp only [List.flatMap_cons, List.mem_append, List.mem_range'_1]
      split at h
      · simp at h
      · split at h
        · exact Or.inl (by omega)
        · exact Or.inr (ih h)

/-- No blank is a letter or a digit. -/
theorem isAlphanumeric_eq_false_of_isBlank {c : Char} (h : isBlank c = true) :
    isAlphanumeric c = false := by
  have hblanks : ∀ n ∈ whiteSpace.flatMap fun p => List.range' p.1 (p.2 + 1 - p.1),
      inIntervals n alphabetic = false ∧ inIntervals n numeric = false := by
    decide +kernel
  have hc := hblanks c.toNat (mem_intervals_of_inIntervals h)
  rw [isAlphanumeric, isAlphabetic, isNumeric, hc.1, hc.2, Bool.or_false]

namespace TypeRef

/-- No blank is a name character. -/
theorem isNameChar_eq_false_of_isBlank {c : Char} (h : isBlank c = true) :
    isNameChar c = false := by
  have hne : ∀ d : Char, isBlank d = false → c ≠ d := by
    rintro d hd rfl
    exact Bool.false_ne_true (hd.symm.trans h)
  simp [isNameChar, isAlphanumeric_eq_false_of_isBlank h, hne '_' (by decide),
    hne '.' (by decide), hne '@' (by decide), hne ':' (by decide)]

theorem isBlank_eq_false_of_isNameChar {c : Char} (h : isNameChar c = true) :
    isBlank c = false := by
  cases hc : isBlank c with
  | false => rfl
  | true => exact absurd h (by simp [isNameChar_eq_false_of_isBlank hc])

/-! ## Marks -/

@[simp]
theorem isBlank_comma : isBlank ',' = false := by decide

@[simp]
theorem isBlank_less : isBlank '<' = false := by decide

@[simp]
theorem isBlank_greater : isBlank '>' = false := by decide

@[simp]
theorem isBlank_question : isBlank '?' = false := by decide

@[simp]
theorem isBlank_open : isBlank '[' = false := by decide

@[simp]
theorem isBlank_close : isBlank ']' = false := by decide

end TypeRef

end ControllerCompanion
