import ControllerCompanion.Identifier
import ControllerCompanion.Proofs.TypeRef.RoundTrip
import Mathlib.Data.List.Basic

set_option autoImplicit false

/-! # Names that are types

An identifier is the base of a type, so it names a type without suffixes. A name that ends in a
name character has no suffixes, so it is the name of a type only if all of it is a base. -/

namespace ControllerCompanion

open Unicode

/-! ## Identifiers -/

namespace Identifier

theorem isNameChar_of_isWordChar {c : Char} (h : isWordChar c = true) :
    TypeRef.isNameChar c = true := by
  rcases Bool.or_eq_true_iff.1 h with h | h
  · simp [TypeRef.isNameChar, h]
  · simp [TypeRef.isNameChar, h]

theorem isWordChar_of_isWordStart {c : Char} (h : isWordStart c = true) :
    isWordChar c = true := by
  rcases Bool.or_eq_true_iff.1 h with h | h
  · simp [isWordChar, isAlphanumeric, h]
  · simp [isWordChar, h]

theorem isBase_of_isWord {cs : List Char} (h : isWord cs = true) : TypeRef.IsBase cs := by
  cases cs with
  | nil => simp [isWord] at h
  | cons c rest =>
      obtain ⟨hc, hrest⟩ := Bool.and_eq_true_iff.1 h
      refine ⟨List.cons_ne_nil c rest, List.forall_mem_cons.2 ⟨?_, fun d hd => ?_⟩⟩
      · exact isNameChar_of_isWordChar (isWordChar_of_isWordStart hc)
      · exact isNameChar_of_isWordChar (List.all_eq_true.1 hrest d hd)

/-- An identifier is the base of a type, with its `@`. -/
theorem isBase_of_isValid {name : String} (h : isValid name = true) :
    TypeRef.IsBase name.toList := by
  unfold isValid withoutMark at h
  split at h
  next rest hname =>
    rw [hname]
    refine ⟨List.cons_ne_nil _ _, List.forall_mem_cons.2 ⟨by decide, ?_⟩⟩
    exact (isBase_of_isWord h).2
  next => exact isBase_of_isWord h

/-- What a name is turned into has word characters only, apart from an `@` at its start. -/
theorem isNameChar_of_mem_sanitize {name : String} {c : Char} (h : c ∈ (sanitize name).toList) :
    TypeRef.isNameChar c = true := by
  have hmask : ∀ c ∈ mask name.toList, TypeRef.isNameChar c = true := by
    intro c hc
    obtain ⟨d, -, rfl⟩ := List.mem_map.1 hc
    split
    next hd => exact isNameChar_of_isWordChar hd
    next => decide
  unfold sanitize at h
  simp only at h
  split at h
  · rw [String.toList_ofList] at h
    rcases List.mem_cons.1 h with rfl | h
    · decide
    · exact hmask c h
  · split at h
    · rw [String.toList_ofList] at h
      rcases List.mem_cons.1 h with rfl | h
      · decide
      · exact hmask c h
    · rw [String.toList_ofList] at h
      exact hmask c h

end Identifier

/-! ## Types without suffixes -/

namespace TypeRef

theorem wellFormed_of_isBase {name : String} {args : List TypeRef} (hname : IsBase name.toList)
    (hargs : ∀ a ∈ args, WellFormed a) : WellFormed ⟨name, args⟩ :=
  .type ⟨name.toList, [], hname, by simp, by simp⟩ hargs

theorem wellFormed_named {name : String} (hname : IsBase name.toList) : WellFormed (named name) :=
  wellFormed_of_isBase hname (by simp)

/-- A suffix ends in a character that no base has. -/
theorem IsBareSuffix.exists_concat {s : List Char} (h : IsBareSuffix s) :
    ∃ front c, s = front ++ [c] ∧ isNameChar c = false := by
  rcases h with rfl | ⟨commas, rfl⟩
  · exact ⟨[], '?', rfl, by decide⟩
  · exact ⟨'[' :: List.replicate commas ',', ']', rfl, by decide⟩

/-- A name that ends in a name character is a base as a whole. -/
theorem IsTypeName.isBase_of_concat {front : List Char} {c : Char}
    (h : IsTypeName (front ++ [c])) (hc : isNameChar c = true) : IsBase (front ++ [c]) := by
  obtain ⟨base, suffixes, hbase, hbare, hname⟩ := h
  rcases List.eq_nil_or_concat' suffixes with rfl | ⟨before, last, rfl⟩
  · rw [hname, List.flatten_nil, List.append_nil]
    exact hbase
  · -- the last character would be that of the last suffix
    obtain ⟨inner, d, hlast, hd⟩ := (hbare last (by simp)).exists_concat
    rw [hlast, List.flatten_concat, ← List.append_assoc, ← List.append_assoc] at hname
    obtain ⟨-, hcd⟩ := List.append_inj' hname rfl
    rw [← (List.cons.inj hcd).1, hc] at hd
    exact absurd hd (by decide)

/-- A qualified name is the name of a type exactly if its qualifier has name characters only. -/
theorem wellFormed_qualified_iff {qualifier name : String} {args : List TypeRef}
    (hname : IsBase name.toList) (hargs : ∀ a ∈ args, WellFormed a) :
    WellFormed ⟨qualifier ++ "." ++ name, args⟩ ↔
      ∀ c ∈ qualifier.toList, isNameChar c = true := by
  have hchars : (qualifier ++ "." ++ name).toList = qualifier.toList ++ '.' :: name.toList := by
    simp
  constructor
  · intro h c hc
    cases h with
    | type htype _ =>
        -- the name does not end in a suffix, as its last part does not
        obtain ⟨front, last, hlast⟩ := List.eq_nil_or_concat' name.toList |>.resolve_left hname.1
        have hend : isNameChar last = true := hname.2 last (by simp [hlast])
        rw [hchars, hlast, ← List.cons_append, ← List.append_assoc] at htype
        exact (htype.isBase_of_concat hend).2 c (by simp [hc])
  · intro h
    refine wellFormed_of_isBase ⟨by simp [hchars], fun c hc => ?_⟩ hargs
    rw [hchars] at hc
    rcases List.mem_append.1 hc with hc | hc
    · exact h c hc
    · rcases List.mem_cons.1 hc with rfl | hc
      · decide
      · exact hname.2 c hc

end TypeRef

end ControllerCompanion
