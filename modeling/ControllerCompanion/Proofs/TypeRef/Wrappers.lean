import ControllerCompanion.Proofs.Splitting
import ControllerCompanion.TypeRef.Wrapper
import Mathlib.Data.List.Basic

set_option autoImplicit false

/-! # Names of wrapper types

Two names can mean the same type if the segments of one of them are the last segments of the other
one. Their texts are compared without being taken apart (`isDottedEnd_iff`), and the sizes of the
texts tell which one is looked for in the other (`sameName_eq_ite`). So a wrapper is told by the
segments of its name (`unwrapSingle_eq_some_iff`). -/

namespace ControllerCompanion.TypeRef

/-! ## Segments -/

/-- The segments of a name: what stands between its dots, behind the alias of the global namespace
    if the name begins with it. -/
def segmentsOf (name : String) : List (List Char) :=
  ((name.toList.dropPrefix? "global::".toList).getD name.toList).splitOn '.'

theorem withoutGlobal_eq (name : List Char) :
    withoutGlobal name = (name.dropPrefix? "global::".toList).getD name := by
  unfold withoutGlobal
  cases hdrop : name.dropPrefix? "global::".toList with
  | none =>
      have hnot : ¬"global::".toList.isPrefixOf name = true := by
        rw [List.isPrefixOf_iff_prefix]
        rintro ⟨rest, rfl⟩
        rw [List.dropPrefix?_append_of_beq _ (by simp)] at hdrop
        cases hdrop
      rw [if_neg hnot]
      rfl
  | some rest =>
      obtain ⟨qualifier, rfl, hqualifier⟩ := List.dropPrefix?_eq_some_iff.1 hdrop
      obtain rfl := eq_of_beq hqualifier
      have hprefix : "global::".toList.isPrefixOf ("global::".toList ++ rest) = true :=
        List.isPrefixOf_iff_prefix.2 (List.prefix_append _ rest)
      rw [if_pos hprefix]
      exact List.drop_left

/-! ## Ends -/

/-- A name is a dotted end of another one exactly if its segments are the last ones of it. -/
theorem isDottedEnd_iff {short long : List Char} :
    isDottedEnd short long = true ↔ short.splitOn '.' <:+ long.splitOn '.' := by
  rw [Splitting.splitOn_suffix_iff, isDottedEnd, Bool.or_eq_true, beq_iff_eq,
    List.isSuffixOf_iff_suffix]

/-- A dotted end of a name takes less room than the name, unless it is the whole of it. -/
theorem eq_or_size_lt_of_isDottedEnd {short long : List Char}
    (h : isDottedEnd short long = true) :
    short = long ∨ (String.ofList short).utf8ByteSize < (String.ofList long).utf8ByteSize := by
  rw [isDottedEnd, Bool.or_eq_true, beq_iff_eq, List.isSuffixOf_iff_suffix] at h
  refine h.imp_right ?_
  rintro ⟨front, rfl⟩
  have hdot : (String.ofList ['.']).utf8ByteSize = 1 := by decide
  rw [← List.singleton_append, String.ofList_append, String.ofList_append,
    String.utf8ByteSize_append, String.utf8ByteSize_append, hdot]
  omega

/-- A name that takes at least as much room need not be looked for. -/
theorem isDottedEnd_or_of_size_le {short long : List Char}
    (h : (String.ofList short).utf8ByteSize ≤ (String.ofList long).utf8ByteSize) :
    (isDottedEnd short long || isDottedEnd long short) = isDottedEnd short long := by
  cases hend : isDottedEnd long short with
  | false => exact Bool.or_false _
  | true =>
      rcases eq_or_size_lt_of_isDottedEnd hend with rfl | hlt
      · rw [hend, Bool.or_true]
      · omega

/-- It is enough to look for the name that takes less room in the other one. -/
theorem sameName_eq_ite (a b : String) :
    sameName a b =
      if (String.ofList (withoutGlobal a.toList)).utf8ByteSize
          ≤ (String.ofList (withoutGlobal b.toList)).utf8ByteSize
        then isDottedEnd (withoutGlobal a.toList) (withoutGlobal b.toList)
        else isDottedEnd (withoutGlobal b.toList) (withoutGlobal a.toList) := by
  simp only [sameName]
  split
  next hle => exact isDottedEnd_or_of_size_le hle
  next hlt =>
    rw [Bool.or_comm]
    exact isDottedEnd_or_of_size_le (by omega)

theorem sameName_iff (a b : String) :
    sameName a b = true ↔ segmentsOf a <:+ segmentsOf b ∨ segmentsOf b <:+ segmentsOf a := by
  simp only [sameName, Bool.or_eq_true, isDottedEnd_iff, segmentsOf, withoutGlobal_eq]

/-! ## Wrappers -/

/-- **A wrapper is told by the segments of its name.** The result is the argument of the type if it
has exactly one, and if the last segments of its name are those of a wrapper or the other way round;
else there is none. -/
theorem unwrapSingle_eq_some_iff (wrappers : List String) (t inner : TypeRef) :
    t.unwrapSingle wrappers = some inner ↔
      t.args = [inner] ∧ ∃ wrapper ∈ wrappers,
        segmentsOf t.name <:+ segmentsOf wrapper ∨ segmentsOf wrapper <:+ segmentsOf t.name := by
  have hany : wrappers.any (sameName t.name) = true ↔ ∃ wrapper ∈ wrappers,
      segmentsOf t.name <:+ segmentsOf wrapper ∨ segmentsOf wrapper <:+ segmentsOf t.name := by
    simp only [List.any_eq_true, sameName_iff]
  rw [← hany, unwrapSingle]
  split
  next only hargs =>
    rw [hargs]
    split
    next hwrapper => simp [hwrapper]
    next hwrapper => simp [hwrapper]
  next hargs =>
    refine iff_of_false (by simp) ?_
    rintro ⟨hinner, -⟩
    exact hargs inner hinner

end ControllerCompanion.TypeRef
