import ControllerCompanion.Generator.OverrideClass
import ControllerCompanion.Proofs.Declaration.Paths
import Mathlib.Order.Bounds.Defs

set_option autoImplicit false

/-! # Overrides and their hooks

The override of an action makes the call info, hands it to the hook with the arguments, and returns
it (`isRouted_overridePair`). The call info is in a local variable that no parameter hides: its name
has the least number of underscores for which that is so (`exists_isLeast_freshName`). -/

namespace ControllerCompanion.Generator

/-! ## Fresh names -/

/-- A name with underscores behind it. -/
def underscored (name : String) (count : Nat) : String :=
  name ++ String.ofList (List.replicate count '_')

@[simp] theorem toList_underscored (name : String) (count : Nat) :
    (underscored name count).toList = name.toList ++ List.replicate count '_' := by
  rw [underscored, String.toList_append, String.toList_ofList]

@[simp] theorem underscored_zero (name : String) : underscored name 0 = name := by
  simp [← String.toList_inj]

theorem underscored_append (name : String) (count : Nat) :
    underscored (name ++ "_") count = underscored name (count + 1) := by
  rw [← String.toList_inj, toList_underscored, toList_underscored, String.toList_append,
    List.append_assoc, List.replicate_succ]
  rfl

theorem underscored_succ_ne (name : String) (count : Nat) :
    underscored name (count + 1) ≠ name := by
  intro h
  have hlength := congrArg (List.length ∘ String.toList) h
  simp at hlength

/-- **A fresh name is the name with the fewest underscores that is not taken**, and no more of them
than there are taken names. -/
theorem exists_isLeast_freshName (name : String) (taken : List String) :
    ∃ count, IsLeast {k | underscored name k ∉ taken} count ∧ count ≤ taken.length ∧
      freshName name taken = underscored name count := by
  fun_induction freshName name taken with
  | case1 name taken hmem ih =>
      obtain ⟨count, ⟨hfree, hleast⟩, hcount, heq⟩ := ih
      -- the erased name is none of those that are tried from here on
      have herase (k : Nat) :
          underscored (name ++ "_") k ∈ taken.erase name ↔ underscored name (k + 1) ∈ taken := by
        rw [underscored_append, List.mem_erase_of_ne (underscored_succ_ne name k)]
      refine ⟨count + 1, ⟨?_, ?_⟩, ?_, ?_⟩
      · intro htaken
        exact hfree ((herase count).2 htaken)
      · intro k hk
        cases k with
        | zero =>
            have hname : underscored name 0 ∉ taken := hk
            rw [underscored_zero] at hname
            exact absurd hmem hname
        | succ k =>
            have hle : count ≤ k := hleast fun htaken => hk ((herase k).1 htaken)
            omega
      · have hlength := List.length_erase_of_mem hmem
        have hpos := List.length_pos_of_mem hmem
        omega
      · rw [heq, underscored_append]
  | case2 name taken hfree =>
      refine ⟨0, ⟨?_, ?_⟩, Nat.zero_le _, (underscored_zero name).symm⟩
      · show underscored name 0 ∉ taken
        rw [underscored_zero]
        exact hfree
      · intro k _
        exact Nat.zero_le k

/-- The local variable of an override has the least number of underscores with which no parameter is
called like it. -/
theorem exists_isLeast_callInfoLocal (m : Controller.Method) :
    ∃ count, IsLeast {k | ∀ p ∈ m.parameters, p.name ≠ underscored "callInfo" k} count ∧
      count ≤ m.parameters.length ∧
      callInfoLocal (parametersOf m) = underscored "callInfo" count := by
  obtain ⟨count, hleast, hcount, heq⟩ :=
    exists_isLeast_freshName "callInfo" ((parametersOf m).map (·.name))
  have hset : {k | underscored "callInfo" k ∉ (parametersOf m).map (·.name)}
      = {k | ∀ p ∈ m.parameters, p.name ≠ underscored "callInfo" k} := by
    ext k
    simp [parametersOf]
  rw [hset] at hleast
  rw [List.length_map, parametersOf, List.length_map] at hcount
  exact ⟨count, hleast, hcount, heq⟩

/-! ## The pair -/

/-- What an override returns, if its call info is in a local variable: the call info, or if the
return type wraps a type, what `FromResult` of the wrapper makes of the call info as that type. -/
inductive Returns (g : Generator) (m : Controller.Method) (callInfo : String) : Expr → Prop where
  | bare : m.returnType.unwrapSingle g.config.asyncWrappers = none →
      Returns g m callInfo (.ident callInfo)
  | wrapped {inner : TypeRef} {wrapper : Expr} :
      m.returnType.unwrapSingle g.config.asyncWrappers = some inner →
      wrapper.IsPathOf m.returnType.name →
      Returns g m callInfo
        (.invocation (.memberAccess wrapper "FromResult") [.asType (.ident callInfo) inner])

/-- A hook and an override route an action: the override makes the call info, calls the hook with it
and with its own arguments, and returns it. -/
structure IsRouted (g : Generator) (m : Controller.Method) (callInfo : String)
    (hook override : MethodDecl) : Prop where
  hookName : hook.name = m.name ++ g.config.overrideMethodSuffix
  hookParameters : hook.parameters = ⟨callInfo, g.callInfo⟩ :: override.parameters
  hookBody : hook.body = none
  name : override.name = m.name
  returnType : override.returnType = m.returnType
  parameters : override.parameters = m.parameters.map fun p => ⟨p.name, p.type⟩
  body : ∃ result, Returns g m callInfo result ∧ override.body = some
    [.declare callInfo (.objectCreation g.callInfo
        [.ident "Area", .ident "Name", .memberAccess (.ident "ActionNames") m.name]),
      .expression (.invocation (.ident hook.name) (hook.parameters.map fun p => .ident p.name)),
      .result result]

theorem returns_overrideResult (g : Generator) (m : Controller.Method) :
    Returns g m (callInfoLocal (parametersOf m)) (g.overrideResult m) := by
  unfold overrideResult
  cases hunwrap : m.returnType.unwrapSingle g.config.asyncWrappers with
  | none => exact .bare hunwrap
  | some inner => exact .wrapped hunwrap (Expr.isPathOf_path m.returnType.name)

theorem isRouted_hook_overrideMethod (g : Generator) (m : Controller.Method) :
    IsRouted g m (callInfoLocal (parametersOf m)) (g.hook m) (g.overrideMethod m) where
  hookName := rfl
  hookParameters := rfl
  hookBody := rfl
  name := rfl
  returnType := rfl
  parameters := rfl
  body := ⟨g.overrideResult m, returns_overrideResult g m, rfl⟩

/-- **Each action has a hook and an override that route it**, and the local variable for the call
info has the least number of underscores with which no parameter is called like it. -/
theorem isRouted_overridePair (g : Generator) (m : Controller.Method) :
    ∃ count hook override,
      IsLeast {k | ∀ p ∈ m.parameters, p.name ≠ underscored "callInfo" k} count ∧
      count ≤ m.parameters.length ∧ g.overridePair m = [hook, override] ∧
      IsRouted g m (underscored "callInfo" count) hook override := by
  obtain ⟨count, hleast, hcount, heq⟩ := exists_isLeast_callInfoLocal m
  refine ⟨count, g.hook m, g.overrideMethod m, hleast, hcount, rfl, ?_⟩
  rw [← heq]
  exact isRouted_hook_overrideMethod g m

end ControllerCompanion.Generator
