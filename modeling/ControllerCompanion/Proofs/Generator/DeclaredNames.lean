import ControllerCompanion.Proofs.Controller.Accepted
import ControllerCompanion.Proofs.Declaration.Names
import ControllerCompanion.Proofs.Generator.Actions
import ControllerCompanion.Proofs.Generator.Capture
import ControllerCompanion.Proofs.Generator.Passes
import ControllerCompanion.Proofs.Identifiers
import ControllerCompanion.Proofs.ViewsClass.Folder

set_option autoImplicit false

/-! # The names in generated classes

A model has identifiers only, and what is generated for it should have no other names. The names in
a partial class are identifiers, and so are those of an override class, apart from its own: it is
put together of a prefix and the name of the controller, which may begin with `@`. Nor need the
slot of a controller have an identifier, as its name is cut off from that of the controller. So all
names are identifiers exactly if no controller of the namespace has such a name
(`isValid_declaredNames_iff`). -/

namespace ControllerCompanion.Generator

open Identifier

variable (g : Generator) {c : Controller}

/-! ## What is known of a controller -/

section

variable (hc : ∀ name ∈ Model.namesOf c, isValid name = true)
include hc

theorem isValid_name : isValid c.name = true := hc c.name List.mem_cons_self

theorem isValid_typeParameters : ∀ name ∈ c.typeParameters, isValid name = true := by
  intro name hname
  exact hc name (by simp [Model.namesOf, hname])

/-- The names of an action and its parameters are identifiers. -/
theorem isValid_of_mem_actions {m : Controller.Method} (hm : m ∈ c.actions) :
    isValid m.name = true ∧ ∀ name ∈ m.parameters.map (·.name), isValid name = true := by
  have hmethod : m ∈ c.methods := List.mem_of_mem_filter hm
  have hnames : ∀ name ∈ m.name :: m.parameters.map (·.name), isValid name = true := by
    intro name hname
    exact hc name (List.mem_append_right _ (List.mem_flatMap.2 ⟨m, hmethod, hname⟩))
  exact List.forall_mem_cons.1 hnames

theorem isValid_actionNames : ∀ name ∈ c.actionNames, isValid name = true := by
  intro name hname
  obtain ⟨m, hm, rfl⟩ := (mem_actionNames_iff c).1 hname
  exact (isValid_of_mem_actions hc hm).1

end

/-! ## Partial classes -/

theorem typeParameters_partialClass (area : String) (views : ClassDecl) :
    (g.partialClass c area views).typeParameters = c.typeParameters := by
  show (g.partialConstructors c).typeParameters = c.typeParameters
  unfold partialConstructors
  cases c.hasPublicConstructor <;> rfl

theorem declaredNames_namesClass (hidden className : String) (names : List String)
    (modifiers : List Modifier) :
    (namesClass className names modifiers).declaredNames hidden = className :: names := by
  have htypeParameters : (namesClass className names modifiers).typeParameters = [] := by
    unfold namesClass
    refine List.foldlRecOn (motive := fun k : ClassDecl => k.typeParameters = []) _ _ rfl ?_
    intro k hk name _
    exact hk
  rw [ClassDecl.declaredNames_eq, namesClass_name, htypeParameters, members_namesClass,
    List.flatMap_map]
  simp [Member.declaredNames]

/-- The names in the members behind the constructors and methods. -/
theorem declaredNames_metadataMembers (area : String) {views : ClassDecl}
    (hviews : views.name = viewsClassName) :
    (metadataMembers g c area views).flatMap (Member.declaredNames viewsClassName)
      = ["Actions", "Area", "Name", "NameConst", "s_actions", "ActionNames"]
        ++ (actionNamesClassName :: c.actionNames) ++ (actionConstantsClassName :: c.actionNames)
        ++ ["s_views", "Views", viewsClassName] := by
  have hnames : (actionNamesClass c).name ≠ viewsClassName := by
    rw [actionNamesClass, namesClass_name]
    decide
  have hconstants : (actionConstantsClass c).name ≠ viewsClassName := by
    rw [actionConstantsClass, namesClass_name]
    decide
  simp only [metadataMembers, List.flatMap_cons, List.flatMap_nil, Member.declaredNames,
    if_neg hnames, if_neg hconstants, if_pos hviews]
  rw [actionNamesClass, actionConstantsClass, declaredNames_namesClass, declaredNames_namesClass,
    hviews]
  simp

theorem isValid_redirectMethods :
    ∀ name ∈ g.redirectMethods.flatMap MethodDecl.declaredNames, isValid name = true := by
  have hnames : g.redirectMethods.flatMap MethodDecl.declaredNames
      = ["RedirectToAction", "result", "callInfo", "RedirectToAction", "taskResult",
        "RedirectToActionPermanent", "result", "callInfo", "RedirectToActionPermanent",
        "taskResult"] := rfl
  rw [hnames]
  decide

/-- The names in a partial class are identifiers. -/
theorem isValid_partialClass (hc : ∀ name ∈ Model.namesOf c, isValid name = true) (area : String)
    {views : ClassDecl} (hviews : views.name = viewsClassName) :
    ∀ name ∈ (g.partialClass c area views).declaredNames viewsClassName, isValid name = true := by
  have hconstructors : ∀ name ∈ (g.partialConstructors c).members.flatMap
      (Member.declaredNames viewsClassName), isValid name = true := by
    have hmarker : isValid ClassDecl.markerParameter = true := by decide
    rw [members_partialConstructors]
    cases c.hasPublicConstructor
    all_goals simp [Member.declaredNames, ConstructorDecl.declaredNames, isValid_name hc, hmarker]
  have hstubs : ∀ name ∈ (g.actionStubs c).flatMap MethodDecl.declaredNames,
      isValid name = true := by
    intro name hname
    obtain ⟨stub, hstub, hname⟩ := List.mem_flatMap.1 hname
    obtain ⟨action, haction, rfl⟩ := List.mem_map.1 hstub
    obtain rfl : name = action := List.mem_singleton.1 hname
    exact isValid_actionNames hc _ (List.mem_of_mem_filter haction)
  have hmethods : ∀ name ∈ (g.redirectMethods ++ g.actionStubs c).flatMap MethodDecl.declaredNames,
      isValid name = true := by
    rw [List.flatMap_append]
    exact List.forall_mem_append.2 ⟨isValid_redirectMethods g, hstubs⟩
  have hmetadata : ∀ name ∈ (metadataMembers g c area views).flatMap
      (Member.declaredNames viewsClassName), isValid name = true := by
    rw [declaredNames_metadataMembers g area hviews]
    simp only [List.forall_mem_append, List.forall_mem_cons]
    exact ⟨⟨⟨by decide, by decide, isValid_actionNames hc⟩, by decide, isValid_actionNames hc⟩,
      by decide⟩
  rw [ClassDecl.declaredNames_eq, partialClass_name, typeParameters_partialClass,
    members_partialClass, List.flatMap_append, List.flatMap_append, List.flatMap_map]
  simp only [List.forall_mem_append, List.forall_mem_cons]
  exact ⟨⟨isValid_name hc, isValid_typeParameters hc⟩, ⟨hconstructors, hmethods⟩, hmetadata⟩

/-! ## Override classes -/

/-- The name of the local variable is an identifier. -/
theorem isValid_callInfoLocal (parameters : List Parameter) :
    isValid (callInfoLocal parameters) = true := by
  obtain ⟨count, hcount⟩ := exists_toList_callInfoLocal parameters
  have hword : isWord "callInfo".toList = true := by decide
  have hmark : isWordChar '_' = true := by decide
  refine isValid_iff.2 (.inl ?_)
  rw [hcount, isWord_append (ne_nil_of_isWord hword), hword, Bool.true_and, List.all_eq_true]
  intro ch hch
  rw [List.eq_of_mem_replicate hch, hmark]

variable {g}

/-- The names in a hook and in an override are identifiers. -/
theorem isValid_overridePair (hsuffix : g.config.overrideMethodSuffix.toList.all isWordChar = true)
    {m : Controller.Method} (hname : isValid m.name = true)
    (hparameters : ∀ name ∈ m.parameters.map (·.name), isValid name = true) :
    ∀ name ∈ (g.overridePair m).flatMap MethodDecl.declaredNames, isValid name = true := by
  have hlocal := isValid_callInfoLocal (parametersOf m)
  have hhook : isValid (g.hookName m) = true := isValid_append hname hsuffix
  have hbound : (g.hook m).boundNames
      = callInfoLocal (parametersOf m) :: m.parameters.map (·.name) := by
    simp [MethodDecl.boundNames, hook, parametersOf]
  have hnames : (g.overridePair m).flatMap MethodDecl.declaredNames
      = (g.hookName m :: callInfoLocal (parametersOf m) :: m.parameters.map (·.name))
        ++ m.name :: (m.parameters.map (·.name) ++ [callInfoLocal (parametersOf m)]) := by
    rw [← hbound, ← boundNames_overrideMethod g m, overridePair, List.flatMap_cons,
      List.flatMap_singleton]
    rfl
  rw [hnames]
  simp only [List.forall_mem_append, List.forall_mem_cons]
  exact ⟨⟨hhook, hlocal, hparameters⟩, hname, hparameters, hlocal, by simp⟩

theorem declaredNames_overrideClassIn (hidden namespaceText : String) :
    (g.overrideClassIn c namespaceText).declaredNames hidden
      = (g.config.overrideClassPrefix ++ c.name) :: c.typeParameters
        ++ (g.config.overrideClassPrefix ++ c.name)
          :: (c.actions.flatMap g.overridePair).flatMap MethodDecl.declaredNames := by
  have hmembers : (g.overrideClassIn c namespaceText).members
      = .constructor ⟨g.config.overrideClassPrefix ++ c.name, [.isPublic], [],
          some (.base [.path g.config.markerInstance]), [], []⟩
        :: (c.actions.flatMap g.overridePair).map Member.method := rfl
  rw [ClassDecl.declaredNames_eq, hmembers, List.flatMap_cons, List.flatMap_map]
  rfl

/-- The names in an override class are identifiers exactly if that of the controller has no mark:
    the prefix is put before it. -/
theorem isValid_overrideClassIn_iff
    (hbefore : isWord g.config.overrideClassPrefix.toList = true)
    (hsuffix : g.config.overrideMethodSuffix.toList.all isWordChar = true)
    (hc : ∀ name ∈ Model.namesOf c, isValid name = true) (hidden namespaceText : String) :
    (∀ name ∈ (g.overrideClassIn c namespaceText).declaredNames hidden, isValid name = true) ↔
      c.name.toList.head? ≠ some '@' := by
  have hactions : ∀ name ∈ (c.actions.flatMap g.overridePair).flatMap MethodDecl.declaredNames,
      isValid name = true := by
    intro name hname
    obtain ⟨d, hd, hname⟩ := List.mem_flatMap.1 hname
    obtain ⟨m, hm, hd⟩ := List.mem_flatMap.1 hd
    obtain ⟨hmethod, hparameters⟩ := isValid_of_mem_actions hc hm
    exact isValid_overridePair hsuffix hmethod hparameters name
      (List.mem_flatMap.2 ⟨d, hd, hname⟩)
  rw [declaredNames_overrideClassIn, ← isValid_prepend_iff hbefore (isValid_name hc)]
  simp only [List.forall_mem_append, List.forall_mem_cons]
  constructor
  · intro h
    exact h.1.1
  · intro h
    exact ⟨⟨h, isValid_typeParameters hc⟩, h, hactions⟩

/-! ## Slots -/

/-- The slot of a class: the member that its property `Actions` asks for. -/
def slotName? (k : ClassDecl) : Option String :=
  match (k.property? "Actions").map PropertyDecl.getter with
  | some (.memberAccess _ name) => some name
  | _ => none

theorem slotName?_partialClass (area : String) (views : ClassDecl) :
    slotName? (g.partialClass c area views) = some (controllerName c.name) := by
  have hproperty : (g.partialClass c area views).property? "Actions"
      = some ⟨"Actions", c.selfType, [.isPublic], g.actionsSlot area (controllerName c.name)⟩ := by
    rw [ClassDecl.property?, ClassDecl.properties, members_partialClass, List.filterMap_append,
      List.filterMap_append, members_partialConstructors, List.filterMap_map]
    cases c.hasPublicConstructor <;> simp [metadataMembers]
  rw [slotName?, hproperty]
  rfl

theorem slotName?_overrideClassIn (namespaceText : String) :
    slotName? (g.overrideClassIn c namespaceText) = none := by
  have hproperties : (g.overrideClassIn c namespaceText).properties = [] := by
    simp [overrideClassIn, ClassDecl.properties, ClassDecl.addMethods, ClassDecl.addMembers,
      ClassDecl.addBaseMarkerConstructor, ClassDecl.addConstructor, ClassDecl.addMember,
      ClassDecl.addAttributes, ClassDecl.addBaseTypes, ClassDecl.empty]
  rw [slotName?, ClassDecl.property?, hproperties]
  rfl

/-! ## Namespaces -/

/-- **What is generated for a model has identifiers for names exactly if no controller of the
namespace has a name that begins with `@`**, apart from the views. The slots of the controllers are
called by identifiers exactly if no controller of the namespace is called `@Controller`. -/
theorem isValid_declaredNames_iff {model : Model} {views : List View} {ns : List NamespaceDecl}
    (hns : standard.namespaces model.controllers views = .ok ns) :
    ∀ n ∈ ns,
      ((∀ name ∈ n.declaredNames viewsClassName, isValid name = true) ↔
        ∀ c ∈ model.controllers, c.namespaceText = some n.name →
          c.name.toList.head? ≠ some '@') ∧
      ((∀ k ∈ n.classes, ∀ name, slotName? k = some name → isValid name = true) ↔
        ∀ c ∈ model.controllers, c.namespaceText = some n.name → c.name ≠ "@Controller") := by
  have hviews : (viewsClass views).1.name = viewsClassName := folderClass_name _ _ _
  have hbefore : isWord standard.config.overrideClassPrefix.toList = true := by decide
  have hsuffix : standard.config.overrideMethodSuffix.toList.all isWordChar = true := by decide
  have hgrouped := isGrouped_of_namespaces hns
  intro n hn
  constructor
  · rw [NamespaceDecl.declaredNames]
    simp only [List.forall_mem_flatMap, hgrouped.forall_mem_classes_iff hn]
    refine forall₃_congr fun c hc _ => ?_
    have hnames := model.isValid_of_mem c hc
    rw [isValid_overrideClassIn_iff hbefore hsuffix hnames viewsClassName n.name]
    exact and_iff_right (isValid_partialClass standard hnames _ hviews)
  · simp only [hgrouped.forall_mem_classes_iff hn, slotName?_partialClass,
      slotName?_overrideClassIn]
    refine forall₃_congr fun c hc _ => ?_
    have hname := isValid_name (model.isValid_of_mem c hc)
    simp [← isValid_controllerName_iff hname]

/-- A controller in a namespace, with no members. -/
def bareController (name : String) : Controller := .empty name "App"

theorem namespaces_bareController (name : String) :
    standard.namespaces [bareController name] []
      = .ok [standard.namespaceOf [bareController name] [] "App"] :=
  namespaces_of_shared (List.cons_ne_nil _ _) (List.forall_mem_singleton.2 (by rfl)) []

/-- All names that are generated for an ordinary controller are identifiers, and so is its slot. -/
theorem isValid_declaredNames_home :
    ∃ model : Model, model.controllers = [bareController "HomeController"] ∧
      ∃ ns, standard.namespaces model.controllers [] = .ok ns ∧ ∃ n ∈ ns,
        (∀ name ∈ n.declaredNames viewsClassName, isValid name = true) ∧
        (∀ k ∈ n.classes, ∀ name, slotName? k = some name → isValid name = true) ∧
        "R4MVC_HomeController" ∈ n.declaredNames viewsClassName ∧
        n.classes.filterMap slotName? = ["Home"] := by
  obtain ⟨model, hmodel⟩ : ∃ model : Model,
      model.controllers = [bareController "HomeController"] := ⟨⟨_, by decide⟩, rfl⟩
  have hns := namespaces_bareController "HomeController"
  rw [← hmodel] at hns
  obtain ⟨hnames, hslots⟩ := isValid_declaredNames_iff hns _ (List.mem_singleton_self _)
  rw [hmodel] at hnames hslots
  refine ⟨model, hmodel, _, hns, _, List.mem_singleton_self _, ?_⟩
  rw [hmodel]
  exact ⟨hnames.2 (by decide), hslots.2 (by decide), by decide, by decide⟩

/-- A controller may be called `@Controller`, and then neither its override class nor its slot has
    an identifier for a name. -/
theorem not_isValid_declaredNames_marked :
    (¬∀ (model : Model) (views : List View) (ns : List NamespaceDecl),
      standard.namespaces model.controllers views = .ok ns →
        ∀ n ∈ ns, ∀ name ∈ n.declaredNames viewsClassName, isValid name = true) ∧
    ¬∀ (model : Model) (views : List View) (ns : List NamespaceDecl),
      standard.namespaces model.controllers views = .ok ns →
        ∀ n ∈ ns, ∀ k ∈ n.classes, ∀ name, slotName? k = some name → isValid name = true := by
  have hns := namespaces_bareController "@Controller"
  constructor
  · intro hall
    have hvalid := hall ⟨_, by decide⟩ [] _ hns _ (List.mem_singleton_self _)
    exact absurd (hvalid "R4MVC_@Controller" (by decide)) (by decide)
  · intro hall
    have hvalid := hall ⟨_, by decide⟩ [] _ hns _ (List.mem_singleton_self _)
    exact absurd (hvalid _ List.mem_cons_self "@" (by decide)) (by decide)

end ControllerCompanion.Generator
