import ControllerCompanion.Declaration.Expr
import ControllerCompanion.Proofs.Splitting
import Mathlib.Data.List.Induction

set_option autoImplicit false

/-! # Dotted paths

The expression of a dotted path is the one chain of member accesses on an identifier whose parts,
with dots between them, are the path (`isPathOf_iff`). -/

namespace ControllerCompanion.Expr

/-- The parts of a chain of member accesses on an identifier: the identifier, then the members. -/
def parts? : Expr → Option (List String)
  | .ident name => some [name]
  | .memberAccess target member => (parts? target).map (· ++ [member])
  | _ => none

/-- The expression is a chain of member accesses on an identifier that spells the dotted path. -/
def IsPathOf (dotted : String) (e : Expr) : Prop :=
  ∃ parts, e.parts? = some parts ∧ (∀ part ∈ parts, '.' ∉ part.toList) ∧
    ".".intercalate parts = dotted

theorem parts?_foldl_memberAccess (first : String) (members : List String) :
    (members.foldl memberAccess (.ident first)).parts? = some (first :: members) := by
  induction members using List.reverseRecOn with
  | nil => rfl
  | append_singleton members last ih =>
      rw [List.foldl_append, List.foldl_cons, List.foldl_nil, parts?, ih]
      rfl

/-- A chain is told by its parts. -/
theorem eq_foldl_of_parts? {e : Expr} {parts : List String} (h : e.parts? = some parts) :
    ∃ first members, parts = first :: members ∧
      e = members.foldl memberAccess (.ident first) := by
  induction e using parts?.induct generalizing parts with
  | case1 name =>
      obtain rfl : [name] = parts := by simpa [parts?] using h
      exact ⟨name, [], rfl, rfl⟩
  | case2 target member ih =>
      rw [parts?, Option.map_eq_some_iff] at h
      obtain ⟨before, hbefore, rfl⟩ := h
      obtain ⟨first, members, rfl, rfl⟩ := ih hbefore
      refine ⟨first, members ++ [member], rfl, ?_⟩
      rw [List.foldl_append]
      rfl
  | case3 e hident hmember =>
      rw [parts?] at h
      · exact absurd h (by simp)
      · exact hident
      · exact hmember

/-- The parts of a dotted text, of which there is at least one. -/
theorem exists_splitOn_dot (dotted : String) :
    ∃ first members, (dotted.toList.splitOn '.').map String.ofList = first :: members := by
  refine List.exists_cons_of_ne_nil ?_
  simp [List.splitOn_ne_nil]

theorem isPathOf_path (dotted : String) : (path dotted).IsPathOf dotted := by
  obtain ⟨first, members, hparts⟩ := exists_splitOn_dot dotted
  have hpath : path dotted = members.foldl memberAccess (.ident first) := by
    rw [path, hparts]
  have hsplit : Splitting.IsSplit '.' dotted (first :: members) := Splitting.isSplit_iff.2 hparts
  refine ⟨first :: members, ?_, hsplit.not_mem, hsplit.joined⟩
  rw [hpath, parts?_foldl_memberAccess]

/-- **The expression of a dotted path is the one chain that spells it.** -/
theorem isPathOf_iff {dotted : String} {e : Expr} : e.IsPathOf dotted ↔ e = path dotted := by
  constructor
  · rintro ⟨parts, hparts, hdots, hdotted⟩
    obtain ⟨first, members, rfl, rfl⟩ := eq_foldl_of_parts? hparts
    -- no part has a dot, so splitting finds the parts again
    have hsplit : Splitting.IsSplit '.' dotted (first :: members) :=
      ⟨List.cons_ne_nil first members, hdots, hdotted⟩
    rw [path, Splitting.isSplit_iff.1 hsplit]
  · rintro rfl
    exact isPathOf_path dotted

end ControllerCompanion.Expr
