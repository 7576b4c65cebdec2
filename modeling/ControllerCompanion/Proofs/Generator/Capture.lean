import ControllerCompanion.Controller.Model
import ControllerCompanion.Proofs.Declaration.Scope
import ControllerCompanion.Proofs.Generator.Overrides
import ControllerCompanion.Proofs.Outcome

set_option autoImplicit false

/-! # Names in generated overrides

The body of an override uses four names of its class: `Area`, `Name` and `ActionNames` for the call
info, and the name of the hook. The local variable is chosen apart from the parameters, but nothing
keeps the parameters apart from these four. So they mean the members of the class exactly if no
parameter has one of their names, and the hook is not called like the local variable. -/

namespace ControllerCompanion.Generator

/-! ## The local variable -/

theorem exists_toList_callInfoLocal (parameters : List Parameter) :
    ∃ count, (callInfoLocal parameters).toList
      = "callInfo".toList ++ List.replicate count '_' := by
  obtain ⟨count, -, -, heq⟩ := exists_isLeast_freshName "callInfo" (parameters.map (·.name))
  exact ⟨count, by rw [callInfoLocal, heq, toList_underscored]⟩

/-- The name of the local variable begins with a small `c`. -/
theorem callInfoLocal_ne {parameters : List Parameter} {name : String}
    (h : name.toList.head? ≠ some 'c') : callInfoLocal parameters ≠ name := by
  rintro rfl
  obtain ⟨count, hcount⟩ := exists_toList_callInfoLocal parameters
  rw [hcount] at h
  exact h rfl

/-- The name of the local variable ends in `o` or in an underscore. -/
theorem getLast?_callInfoLocal (parameters : List Parameter) :
    (callInfoLocal parameters).toList.getLast? = some 'o' ∨
      (callInfoLocal parameters).toList.getLast? = some '_' := by
  obtain ⟨count, hcount⟩ := exists_toList_callInfoLocal parameters
  rw [hcount, List.getLast?_append]
  cases count with
  | zero => exact .inl rfl
  | succ count => exact .inr (by simp [List.getLast?_replicate])

/-! ## The body -/

/-- The names in the body of an override that are meant to be those of members. -/
def memberNames (g : Generator) (m : Controller.Method) : List String :=
  ["Area", "Name", "ActionNames", g.hookName m]

/-- What the body of an override refers to: the members, the local variable, the parameters, and
    what the result is made with. -/
theorem idents_overrideMethod (g : Generator) (m : Controller.Method) :
    (g.overrideMethod m).idents
      = memberNames g m ++ callInfoLocal (parametersOf m) :: m.parameters.map (·.name)
        ++ (g.overrideResult m).idents := by
  have hargs : Expr.identsList ((parametersOf m).map fun p => .ident p.name)
      = (parametersOf m).map Parameter.name := Expr.identsList_map_ident Parameter.name _
  have hparameters : (parametersOf m).map Parameter.name = m.parameters.map (·.name) := by
    rw [parametersOf, List.map_map]
    rfl
  simp [MethodDecl.idents, overrideMethod, Stmt.idents, callInfoExpr, Expr.idents,
    Expr.identsList, hargs, hparameters, memberNames]

theorem boundNames_overrideMethod (g : Generator) (m : Controller.Method) :
    (g.overrideMethod m).boundNames
      = m.parameters.map (·.name) ++ [callInfoLocal (parametersOf m)] := by
  rw [MethodDecl.boundNames, overrideMethod, parametersOf, List.map_map]
  rfl

/-- A name of a member is free in the override unless a parameter or the local variable has it. -/
theorem mem_freeNames_overrideMethod {g : Generator} {m : Controller.Method} {name : String}
    (h : name ∈ memberNames g m) :
    name ∈ (g.overrideMethod m).freeNames ↔
      name ∉ m.parameters.map (·.name) ∧ name ≠ callInfoLocal (parametersOf m) := by
  have hidents : name ∈ (g.overrideMethod m).idents := by
    rw [idents_overrideMethod]
    exact List.mem_append_left _ (List.mem_append_left _ h)
  rw [MethodDecl.mem_freeNames_iff, boundNames_overrideMethod, List.mem_append, not_or,
    List.mem_singleton]
  exact and_iff_right hidents

/-- With the standard configuration, no hook is called like the local variable. -/
theorem hookName_standard_ne_callInfoLocal (m : Controller.Method) :
    standard.hookName m ≠ callInfoLocal (parametersOf m) := by
  intro h
  have hlast : (standard.hookName m).toList.getLast? = some 'e' := by
    simp [hookName, standard, List.getLast?_append]
  rw [h] at hlast
  rcases getLast?_callInfoLocal (parametersOf m) with ho | ho
  · rw [ho] at hlast
    exact absurd hlast (by decide)
  · rw [ho] at hlast
    exact absurd hlast (by decide)

/-- **The names of members in an override mean the members exactly if no parameter has one of them**
and the hook is not called like the local variable, which the standard configuration excludes. -/
theorem forall_mem_freeNames_overrideMethod_iff (g : Generator) (m : Controller.Method) :
    ((∀ name ∈ memberNames g m, name ∈ (g.overrideMethod m).freeNames) ↔
      (∀ p ∈ m.parameters, p.name ∉ memberNames g m) ∧
        g.hookName m ≠ callInfoLocal (parametersOf m)) ∧
      standard.hookName m ≠ callInfoLocal (parametersOf m) := by
  refine ⟨⟨fun h => ⟨fun p hp hname => ?_, ?_⟩, ?_⟩, hookName_standard_ne_callInfoLocal m⟩
  · have hfree := (mem_freeNames_overrideMethod hname).1 (h p.name hname)
    exact hfree.1 (List.mem_map_of_mem hp)
  · have hhook : g.hookName m ∈ memberNames g m := by simp [memberNames]
    exact ((mem_freeNames_overrideMethod hhook).1 (h _ hhook)).2
  · rintro ⟨hparameters, hhook⟩ name hname
    refine (mem_freeNames_overrideMethod hname).2 ⟨fun hmem => ?_, ?_⟩
    · obtain ⟨p, hp, rfl⟩ := List.mem_map.1 hmem
      exact hparameters p hp hname
    · -- three of the names begin with a capital
      simp only [memberNames, List.mem_cons, List.not_mem_nil, or_false] at hname
      rcases hname with rfl | rfl | rfl | rfl
      · exact (callInfoLocal_ne (by decide)).symm
      · exact (callInfoLocal_ne (by decide)).symm
      · exact (callInfoLocal_ne (by decide)).symm
      · exact hhook

/-- The document of a model with an action that has a parameter `Name`. -/
def renameText : String :=
  "\x7b\"controllers\":[\x7b\"name\":\"UsersController\",\"namespace\":\"App\",\"methods\":["
    ++ "\x7b\"name\":\"Rename\",\"return_type\":\"IActionResult\","
    ++ "\"parameters\":[\x7b\"name\":\"Name\",\"type\":\"string\"\x7d]\x7d]\x7d]\x7d"

/-- That action. -/
def renameAction : Controller.Method :=
  ⟨"Rename", [⟨"Name", .named "string"⟩], .named "IActionResult", .publicAccess, false⟩

/-- A parameter may be called `Name`, and then the override does not use the member. -/
theorem not_mem_freeNames_renameAction :
    ¬∀ (text : String) (model : Model), Model.ofText text = .ok model →
      ∀ (g : Generator), ∀ c ∈ model.controllers, ∀ m ∈ c.actions,
        ∀ name ∈ memberNames g m, name ∈ (g.overrideMethod m).freeNames := by
  intro hall
  have h : (Model.ofText renameText).toOption.map (·.controllers.flatMap Controller.actions)
      = some [renameAction] := by
    decide +kernel
  obtain ⟨model, hmodel, hactions⟩ := Option.map_eq_some_iff.1 h
  have hmem : renameAction ∈ model.controllers.flatMap Controller.actions := by
    rw [hactions]
    exact List.mem_singleton_self _
  obtain ⟨c, hc, hm⟩ := List.mem_flatMap.1 hmem
  have hname : "Name" ∈ memberNames standard renameAction := by simp [memberNames]
  have hfree := hall _ model (eq_ok_of_toOption hmodel) standard c hc _ hm "Name" hname
  have hparameter : "Name" ∉ renameAction.parameters.map (·.name) :=
    ((mem_freeNames_overrideMethod hname).1 hfree).1
  exact hparameter (by decide)

end ControllerCompanion.Generator
