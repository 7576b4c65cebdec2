import ControllerCompanion.Controller.Model
import ControllerCompanion.Proofs.Generator.Actions
import ControllerCompanion.Proofs.Outcome
import ControllerCompanion.Proofs.ViewsClass.Folder

set_option autoImplicit false

/-! # Metadata and actions

A partial class has eleven fields, properties and nested classes of its own, always the same ones,
beside the methods that go by the names of actions. Nothing keeps the two apart: they clash exactly
if an action has one of the eleven names (`metadata_apart_iff`). The call infos refer to three of
them by name, and each of the three names means one member exactly if no action and no hook has
it. -/

namespace ControllerCompanion

/-! ## Names of members -/

/-- The names of the fields, properties and nested classes of a class. -/
def ClassDecl.dataNames (k : ClassDecl) : List String :=
  k.members.filterMap fun
    | .field f => some f.name
    | .property p => some p.name
    | .nestedClass d => some d.name
    | _ => none

/-- The names of all members that code can refer to by name: constructors have none. -/
def ClassDecl.referenceNames (k : ClassDecl) : List String :=
  k.dataNames ++ k.methods.map MethodDecl.name

namespace Generator

variable (g : Generator) (c : Controller)

/-- The names of the fields, properties and nested classes of partial classes. -/
def metadataNames : List String :=
  ["Actions", "Area", "Name", "NameConst", "s_actions", "ActionNames", "ActionNamesClass",
    "ActionNameConstants", "s_views", "Views", "ViewsClass"]

theorem dataNames_partialClass (area : String) {views : ClassDecl}
    (hviews : views.name = viewsClassName) :
    (g.partialClass c area views).dataNames = metadataNames := by
  have hconstructors : (g.partialConstructors c).dataNames = [] := by
    rw [ClassDecl.dataNames, members_partialConstructors]
    cases c.hasPublicConstructor <;> rfl
  rw [ClassDecl.dataNames] at hconstructors
  rw [ClassDecl.dataNames, members_partialClass, List.filterMap_append, List.filterMap_append,
    hconstructors, List.filterMap_map]
  simp [metadataMembers, metadataNames, actionNamesClass, actionConstantsClass,
    actionNamesClassName, actionConstantsClassName, hviews, viewsClassName]

theorem dataNames_overrideClassIn (namespaceText : String) :
    (g.overrideClassIn c namespaceText).dataNames = [] := by
  simp [overrideClassIn, ClassDecl.dataNames, ClassDecl.addMethods, ClassDecl.addMembers,
    ClassDecl.addBaseMarkerConstructor, ClassDecl.addConstructor, ClassDecl.addMember,
    ClassDecl.addAttributes, ClassDecl.addBaseTypes, ClassDecl.empty]

/-! ## Names of methods -/

/-- A method of a partial class that is called like metadata is called like an action. -/
theorem exists_action_of_mem_metadataNames {area : String} {views : ClassDecl} {d : MethodDecl}
    (h : d ∈ (g.partialClass c area views).methods) (hname : d.name ∈ metadataNames) :
    ∃ a ∈ c.actions, a.name = d.name := by
  have hredirects : ∀ name ∈ redirectNames, name ∉ metadataNames := by decide
  rw [methods_partialClass, List.mem_append] at h
  rcases h with hredirect | hstub
  · exact absurd hname (hredirects _ (isRedirect_of_mem g hredirect).name)
  · obtain ⟨action, haction, rfl⟩ := List.mem_map.1 hstub
    exact (mem_actionNames_iff c).1 (List.mem_filter.1 haction).1

theorem mem_names_methods_overrideClassIn {namespaceText name : String} :
    name ∈ (g.overrideClassIn c namespaceText).methods.map MethodDecl.name ↔
      ∃ a ∈ c.actions, g.hookName a = name ∨ a.name = name := by
  have hpair : ∀ m, (g.overridePair m).map MethodDecl.name = [g.hookName m, m.name] := fun _ => rfl
  simp only [methods_overrideClassIn, List.map_flatMap, hpair, List.mem_flatMap, List.mem_cons,
    List.not_mem_nil, or_false, eq_comm]

/-! ## Clashes -/

/-- What the names in generated code are looked up in: the two classes that are generated for a
    controller, and the actions that it declares itself. -/
def namesInScope (area namespaceText : String) (views : List View) : List String :=
  (g.partialClass c area (viewsClass views).1).referenceNames ++ c.actions.map (·.name)
    ++ (g.overrideClassIn c namespaceText).referenceNames

/-- The names of metadata that call infos are made with. -/
def callInfoNames : List String := ["Area", "Name", "ActionNames"]

theorem idents_callInfoExpr (action : String) : (g.callInfoExpr action).idents = callInfoNames :=
  rfl

theorem count_metadataNames : ∀ name ∈ callInfoNames, metadataNames.count name = 1 := by
  decide

/-- A name of a call info that means one member is the name of no action and of no hook. -/
theorem count_namesInScope_eq_one_iff (area namespaceText : String) (views : List View)
    {name : String} (h : name ∈ callInfoNames) :
    (namesInScope g c area namespaceText views).count name = 1 ↔
      ∀ a ∈ c.actions, a.name ≠ name ∧ g.hookName a ≠ name := by
  have hdata := dataNames_partialClass g c area (viewsClass_name views)
  rw [namesInScope, ClassDecl.referenceNames, ClassDecl.referenceNames, hdata,
    dataNames_overrideClassIn, List.nil_append, List.count_append, List.count_append,
    List.count_append, count_metadataNames name h]
  have hone (x y z : Nat) : 1 + x + y + z = 1 ↔ x = 0 ∧ y = 0 ∧ z = 0 := by omega
  rw [hone, List.count_eq_zero, List.count_eq_zero, List.count_eq_zero,
    mem_names_methods_overrideClassIn]
  constructor
  · rintro ⟨-, -, hoverrides⟩ a ha
    exact ⟨fun hname => hoverrides ⟨a, ha, .inr hname⟩,
      fun hname => hoverrides ⟨a, ha, .inl hname⟩⟩
  · intro hall
    refine ⟨fun hmethod => ?_, fun haction => ?_, ?_⟩
    · obtain ⟨d, hd, rfl⟩ := List.mem_map.1 hmethod
      have hmetadata : d.name ∈ metadataNames :=
        List.count_pos_iff.1 (by rw [count_metadataNames _ h]; exact Nat.one_pos)
      obtain ⟨a, ha, hname⟩ := exists_action_of_mem_metadataNames g c hd hmetadata
      exact (hall a ha).1 hname
    · obtain ⟨a, ha, hname⟩ := List.mem_map.1 haction
      exact (hall a ha).1 hname
    · rintro ⟨a, ha, hhook | hname⟩
      · exact (hall a ha).2 hhook
      · exact (hall a ha).1 hname

/-- With the standard configuration, no hook is called like a name of a call info. -/
theorem hookName_standard_not_mem_callInfoNames (m : Controller.Method) :
    standard.hookName m ∉ callInfoNames := by
  intro h
  have hsuffix : "Override".toList <:+ (standard.hookName m).toList := by
    rw [hookName, String.toList_append]
    exact List.suffix_append _ _
  have hnone : ∀ name ∈ callInfoNames, ¬"Override".toList <:+ name.toList := by decide
  exact hnone _ h hsuffix

/-- **Metadata and methods are apart exactly if no action is called like metadata.** Fields,
properties and nested classes of a partial class have eleven names, which neither an action of the
controller nor a generated method has if no action has them. Each of the three names that call
infos are made with means one member exactly if no action and no hook is called so, which for hooks
the standard configuration excludes. -/
theorem metadata_apart_iff (area namespaceText : String) (views : List View) :
    (g.partialClass c area (viewsClass views).1).dataNames = metadataNames ∧
    ((∀ m ∈ c.methods, m.accessibility = .publicAccess → m.generated = false →
          m.name ∉ metadataNames) ∧
        (∀ d ∈ (g.partialClass c area (viewsClass views).1).methods, d.name ∉ metadataNames) ↔
      ∀ a ∈ c.actions, a.name ∉ metadataNames) ∧
    (∀ action, (g.callInfoExpr action).idents = callInfoNames) ∧
    (∀ name ∈ callInfoNames, (namesInScope g c area namespaceText views).count name = 1 ↔
      ∀ a ∈ c.actions, a.name ≠ name ∧ g.hookName a ≠ name) ∧
    ∀ m, standard.hookName m ∉ callInfoNames := by
  have hactions : (∀ m ∈ c.methods, m.accessibility = .publicAccess → m.generated = false →
      m.name ∉ metadataNames) ↔ ∀ a ∈ c.actions, a.name ∉ metadataNames := by
    simp only [Controller.actions, Controller.Method.isAction, List.mem_filter]
    grind
  refine ⟨dataNames_partialClass g c area (viewsClass_name views), ?_, idents_callInfoExpr g,
    fun name hname => count_namesInScope_eq_one_iff g c area namespaceText views hname,
    hookName_standard_not_mem_callInfoNames⟩
  rw [hactions]
  refine ⟨And.left, fun hall => ⟨hall, fun d hd hname => ?_⟩⟩
  obtain ⟨a, ha, haction⟩ := exists_action_of_mem_metadataNames g c hd hname
  exact hall a ha (haction ▸ hname)

/-- The document of a model with an action `Name`, which takes an argument. -/
def nameText : String :=
  "\x7b\"controllers\":[\x7b\"name\":\"UsersController\",\"namespace\":\"App\",\"methods\":["
    ++ "\x7b\"name\":\"Name\",\"return_type\":\"IActionResult\","
    ++ "\"parameters\":[\x7b\"name\":\"id\",\"type\":\"int\"\x7d]\x7d]\x7d]\x7d"

/-- That action. -/
def nameAction : Controller.Method :=
  ⟨"Name", [⟨"id", .named "int"⟩], .named "IActionResult", .publicAccess, false⟩

/-- The controller of that action. -/
def nameController : Controller := ⟨"UsersController", some "App", none, [], [], [nameAction]⟩

/-- Both that action and the stub that is added for it have the name of a field. -/
theorem not_apart_nameController :
    (¬∀ (text : String) (model : Model), Model.ofText text = .ok model →
      ∀ c ∈ model.controllers, ∀ (area : String) (views : List View), ∀ m ∈ c.methods,
        m.accessibility = .publicAccess → m.generated = false →
          m.name ∉ (standard.partialClass c area (viewsClass views).1).dataNames) ∧
    ¬∀ (text : String) (model : Model), Model.ofText text = .ok model →
      ∀ c ∈ model.controllers, ∀ (area : String) (views : List View), ∀ d ∈ standard.actionStubs c,
        d.name ∉ (standard.partialClass c area (viewsClass views).1).dataNames := by
  have h : (Model.ofText nameText).toOption.map (·.controllers) = some [nameController] := by
    decide +kernel
  obtain ⟨model, hmodel, hcontrollers⟩ := Option.map_eq_some_iff.1 h
  have hmem : nameController ∈ model.controllers := by
    rw [hcontrollers]
    exact List.mem_singleton_self _
  have hdata := dataNames_partialClass standard nameController "" (viewsClass_name [])
  have hname : "Name" ∈ (standard.partialClass nameController "" (viewsClass []).1).dataNames := by
    rw [hdata]
    decide
  constructor
  · intro hall
    exact hall _ model (eq_ok_of_toOption hmodel) _ hmem "" [] nameAction
      (List.mem_singleton_self _) rfl rfl hname
  · intro hall
    have hstub : standard.actionStub "Name" ∈ standard.actionStubs nameController :=
      List.mem_map_of_mem (by decide)
    exact hall _ model (eq_ok_of_toOption hmodel) _ hmem "" [] _ hstub hname

end Generator

end ControllerCompanion
