import ControllerCompanion.Generator.OverrideClass
import ControllerCompanion.Generator.PartialClass
import ControllerCompanion.Proofs.Declaration.Scope
import ControllerCompanion.Proofs.Keyed
import ControllerCompanion.Proofs.Members
import ControllerCompanion.Proofs.Outcome

set_option autoImplicit false

/-! # Actions in the generated classes

The two classes that are generated for a controller agree on its actions: the names that the partial
class declares, the stubs that it adds, and the hooks and overrides of the override class all come
from the same methods (`actions_agree`). What a body asks `ActionNames` for is declared there. The
one exception is the path of a return type that begins with `ActionNames` itself: the result of an
override is made by way of that path. -/

namespace ControllerCompanion.Generator

variable (g : Generator) (c : Controller)

/-! ## The classes of the names -/

theorem members_namesClass (className : String) (names : List String) (modifiers : List Modifier) :
    (namesClass className names modifiers).members = names.map fun name =>
      .field ⟨name, .named "string", modifiers, some (.stringLiteral name)⟩ := by
  induction names using List.reverseRecOn with
  | nil => rfl
  | append_singleton names name ih =>
      rw [namesClass] at ih
      rw [namesClass, List.foldl_append, List.map_append, List.foldl_cons, List.foldl_nil, ← ih]
      rfl

@[simp] theorem namesClass_name (className : String) (names : List String)
    (modifiers : List Modifier) : (namesClass className names modifiers).name = className := by
  induction names using List.reverseRecOn with
  | nil => rfl
  | append_singleton names name ih =>
      rw [namesClass, List.foldl_append, List.foldl_cons, List.foldl_nil]
      exact ih

/-- A class has a field for each name, which holds the name as a text, and no other field. -/
def HoldsNames (k : ClassDecl) (names : List String) : Prop :=
  k.fields.map (fun f => (f.name, f.initializer))
    = names.map fun name => (name, some (.stringLiteral name))

theorem holdsNames_namesClass (className : String) (names : List String)
    (modifiers : List Modifier) : HoldsNames (namesClass className names modifiers) names := by
  rw [HoldsNames, ClassDecl.fields, members_namesClass, List.filterMap_map]
  simp [Function.comp_def]

/-- A name that is held is the name of exactly one field, if no name is held twice. -/
theorem HoldsNames.count_eq_one {k : ClassDecl} {names : List String} (h : HoldsNames k names)
    (hnodup : names.Nodup) {name : String} (hname : name ∈ names) :
    (k.fields.map FieldDecl.name).count name = 1 := by
  have hfields : k.fields.map FieldDecl.name = names := by
    simpa [Function.comp_def] using congrArg (List.map Prod.fst) h
  rw [hfields]
  exact List.count_eq_one_of_mem hnodup hname

/-! ## The partial class -/

/-- The members of a partial class behind its constructors and methods. -/
def metadataMembers (area : String) (views : ClassDecl) : List Member :=
  let name := controllerName c.name
  let actionNames := TypeRef.named actionNamesClassName
  let viewsType := TypeRef.named viewsClassName
  let text (field value : String) (modifiers : List Modifier) : Member :=
    .field ⟨field, .named "string", modifiers, some (.stringLiteral value)⟩
  let instanceOf (field : String) (type : TypeRef) : Member :=
    .field ⟨field, type, [.isStatic, .isReadonly], some (.objectCreation type [])⟩
  [.property ⟨"Actions", c.selfType, [.isPublic], g.actionsSlot area name⟩,
    text "Area" area [.isPublic, .isReadonly], text "Name" name [.isPublic, .isReadonly],
    text "NameConst" name [.isPublic, .isConst], instanceOf "s_actions" actionNames,
    .property ⟨"ActionNames", actionNames, [.isPublic], .ident "s_actions"⟩,
    .nestedClass (actionNamesClass c), .nestedClass (actionConstantsClass c),
    instanceOf "s_views" viewsType, .property ⟨"Views", viewsType, [.isPublic], .ident "s_views"⟩,
    .nestedClass views]

theorem members_partialClass (area : String) (views : ClassDecl) :
    (g.partialClass c area views).members
      = (g.partialConstructors c).members
        ++ (g.redirectMethods ++ g.actionStubs c).map Member.method
        ++ metadataMembers g c area views := by
  simp only [partialClass, ClassDecl.addMethods, ClassDecl.addProperty, ClassDecl.addStringField,
    ClassDecl.addInstanceField, ClassDecl.addField, ClassDecl.addClass, ClassDecl.addMember,
    ClassDecl.addMembers, List.append_assoc, List.map_append]
  rfl

theorem members_partialConstructors :
    (g.partialConstructors c).members
      = (if c.hasPublicConstructor then []
          else [.constructor ⟨c.name, [.isPublic], [], none, [], g.attributes⟩])
        ++ [.constructor ⟨c.name, [.isProtected], [⟨ClassDecl.markerParameter, g.marker⟩], none, [],
          g.attributes⟩] := by
  unfold partialConstructors
  cases c.hasPublicConstructor <;> rfl

theorem partialClass_name (area : String) (views : ClassDecl) :
    (g.partialClass c area views).name = c.name := by
  show (g.partialConstructors c).name = c.name
  unfold partialConstructors
  cases c.hasPublicConstructor <;> rfl

theorem methods_partialClass (area : String) (views : ClassDecl) :
    (g.partialClass c area views).methods = g.redirectMethods ++ g.actionStubs c := by
  rw [ClassDecl.methods, members_partialClass, List.filterMap_append, List.filterMap_append,
    members_partialConstructors, List.filterMap_map]
  cases c.hasPublicConstructor <;> simp [metadataMembers]

theorem nestedClasses_partialClass (area : String) (views : ClassDecl) :
    (g.partialClass c area views).nestedClasses
      = [actionNamesClass c, actionConstantsClass c, views] := by
  rw [ClassDecl.nestedClasses, members_partialClass, List.filterMap_append, List.filterMap_append,
    members_partialConstructors, List.filterMap_map]
  cases c.hasPublicConstructor <;> simp [metadataMembers]

theorem nestedClass?_actionNames (area : String) (views : ClassDecl) :
    (g.partialClass c area views).nestedClass? actionNamesClassName
      = some (actionNamesClass c) := by
  rw [ClassDecl.nestedClass?, nestedClasses_partialClass, actionNamesClass]
  simp

theorem nestedClass?_actionConstants (area : String) (views : ClassDecl) :
    (g.partialClass c area views).nestedClass? actionConstantsClassName
      = some (actionConstantsClass c) := by
  rw [ClassDecl.nestedClass?, nestedClasses_partialClass, actionNamesClass, actionConstantsClass]
  simp [actionNamesClassName, actionConstantsClassName]

/-! ## Redirects -/

/-- The names of the redirects. -/
def redirectNames : List String := ["RedirectToAction", "RedirectToActionPermanent"]

/-- A redirect has one of two names, takes something, and asks for no name of an action. -/
structure IsRedirect (m : MethodDecl) : Prop where
  name : m.name ∈ redirectNames
  parameters : m.parameters ≠ []
  membersOf : m.membersOf "ActionNames" = []

theorem isRedirect_of_mem {m : MethodDecl} (h : m ∈ g.redirectMethods) : IsRedirect m := by
  simp only [redirectMethods, redirectPair, List.mem_append, List.mem_cons, List.not_mem_nil,
    or_false] at h
  rcases h with (rfl | rfl) | (rfl | rfl)
  · exact ⟨.head _, List.cons_ne_nil _ _, rfl⟩
  · exact ⟨.head _, List.cons_ne_nil _ _, rfl⟩
  · exact ⟨.tail _ (.head _), List.cons_ne_nil _ _, rfl⟩
  · exact ⟨.tail _ (.head _), List.cons_ne_nil _ _, rfl⟩

/-! ## Stubs -/

theorem mem_actionNames_iff {action : String} :
    action ∈ c.actionNames ↔ ∃ m ∈ c.actions, m.name = action := by
  rw [Controller.actionNames, List.mem_eraseDups, List.mem_map]

theorem nodup_actionNames : c.actionNames.Nodup := Keyed.nodup_eraseDups _

theorem hasParameterless_iff {action : String} : hasParameterless c action = true ↔
    ∃ m ∈ c.actions, m.name = action ∧ m.parameters = [] := by
  simp [hasParameterless]

/-- A method that can be called by the name of an action without arguments. -/
def isParameterless (action : String) (m : MethodDecl) : Bool :=
  m.name == action && m.parameters.isEmpty

theorem countP_redirectMethods (action : String) :
    g.redirectMethods.countP (isParameterless action) = 0 := by
  rw [List.countP_eq_zero]
  intro m hm
  simp [isParameterless, (isRedirect_of_mem g hm).parameters]

theorem countP_actionStubs {action : String} (h : action ∈ c.actionNames) :
    (g.actionStubs c).countP (isParameterless action)
      = if hasParameterless c action then 0 else 1 := by
  have hstub : ∀ name, isParameterless action (g.actionStub name) = (name == action) :=
    fun name => by simp [isParameterless, actionStub]
  rw [actionStubs, List.countP_map, Function.comp_def, funext hstub, ← List.count_eq_countP]
  cases hparameterless : hasParameterless c action with
  | true => simp [List.count_eq_zero, hparameterless]
  | false =>
      rw [List.count_filter (by simp [hparameterless])]
      exact List.count_eq_one_of_mem (nodup_actionNames c) h

/-! ## References -/

theorem membersOf_redirectMethods {m : MethodDecl} (h : m ∈ g.redirectMethods) :
    m.membersOf "ActionNames" = [] :=
  (isRedirect_of_mem g h).membersOf

theorem membersOf_callInfoExpr (action : String) :
    (g.callInfoExpr action).membersOf "ActionNames" = [action] := rfl

/-- What the path of a dotted name asks `ActionNames` for when a member of it is called. -/
def pathMembers (dotted member : String) : List String :=
  match (dotted.toList.splitOn '.').map String.ofList with
  | [] => []
  | first :: parts => if first = "ActionNames" then (parts ++ [member]).head?.toList else []

theorem membersOf_path (dotted member : String) :
    ((Expr.path dotted).memberAccess member).membersOf "ActionNames"
      = pathMembers dotted member := by
  unfold Expr.path pathMembers
  generalize (dotted.toList.splitOn '.').map String.ofList = segments
  cases segments with
  | nil => rfl
  | cons first parts =>
      simp only [← Expr.membersOf_foldl_memberAccess, List.foldl_append]
      rfl

/-- What the result of an override asks `ActionNames` for: nothing, unless the action returns a
    wrapper type whose own path begins so. -/
def resultMembers (m : Controller.Method) : List String :=
  if (m.returnType.unwrapSingle g.config.asyncWrappers).isSome then
    pathMembers m.returnType.name "FromResult"
  else []

theorem membersOf_overrideResult (m : Controller.Method) :
    (g.overrideResult m).membersOf "ActionNames" = resultMembers g m := by
  unfold overrideResult resultMembers
  cases m.returnType.unwrapSingle g.config.asyncWrappers with
  | none => rfl
  | some inner =>
      simp only [Option.isSome_some, if_true, ← membersOf_path]
      exact List.append_nil _

theorem membersOf_overrideMethod (m : Controller.Method) :
    (g.overrideMethod m).membersOf "ActionNames" = m.name :: resultMembers g m := by
  have hargs := Expr.membersOfList_map_ident "ActionNames" Parameter.name (parametersOf m)
  simp only [MethodDecl.membersOf, overrideMethod, Option.getD_some, List.flatMap_cons,
    List.flatMap_nil, Stmt.membersOf, membersOf_callInfoExpr, membersOf_overrideResult,
    Expr.membersOf, Expr.membersOfList, hargs]
  simp

/-! ## The override class -/

theorem overrideClassIn_name (namespaceText : String) :
    (g.overrideClassIn c namespaceText).name = g.config.overrideClassPrefix ++ c.name := rfl

theorem methods_overrideClassIn (namespaceText : String) :
    (g.overrideClassIn c namespaceText).methods = c.actions.flatMap g.overridePair := by
  simp [overrideClassIn, ClassDecl.methods, ClassDecl.addMethods, ClassDecl.addMembers,
    ClassDecl.addBaseMarkerConstructor, ClassDecl.addConstructor, ClassDecl.addMember,
    ClassDecl.addAttributes, ClassDecl.addBaseTypes, ClassDecl.empty]

/-! ## The agreement -/

/-- **The two generated classes agree on the actions of a controller.** The partial class declares
the name of each action once, as a text and as a constant, and has a stub exactly for those without
a method that needs no arguments; the override class has a hook and an override for each method. All
that a stub refers to in `ActionNames` is declared there, and so is the name of the action in each
override, which refers to nothing else there but by the path of its return type. -/
theorem actions_agree (area : String) (views : ClassDecl) :
    (∃ names constants,
      (g.partialClass c area views).nestedClass? "ActionNamesClass" = some names ∧
      (g.partialClass c area views).nestedClass? "ActionNameConstants" = some constants ∧
      HoldsNames names (c.actions.map (·.name)).eraseDups ∧
      HoldsNames constants (c.actions.map (·.name)).eraseDups ∧
      (∀ m ∈ (g.partialClass c area views).methods, ∀ name ∈ m.membersOf "ActionNames",
        (names.fields.map FieldDecl.name).count name = 1) ∧
      ∀ m ∈ c.actions,
        (g.overrideMethod m).membersOf "ActionNames" = m.name :: resultMembers g m ∧
          (names.fields.map FieldDecl.name).count m.name = 1) ∧
    (∀ overrides, g.overrideClass c = .ok overrides →
      overrides.methods = c.actions.flatMap fun m => [g.hook m, g.overrideMethod m]) ∧
    ∀ action ∈ c.actions.map (·.name),
      (g.partialClass c area views).methods.countP (isParameterless action)
        = if ∃ m ∈ c.actions, m.name = action ∧ m.parameters = [] then 0 else 1 := by
  have hnames : HoldsNames (actionNamesClass c) c.actionNames := holdsNames_namesClass _ _ _
  have hmem : ∀ m ∈ c.actions, m.name ∈ c.actionNames :=
    fun m hm => (mem_actionNames_iff c).2 ⟨m, hm, rfl⟩
  have hcount : ∀ name ∈ c.actionNames,
      ((actionNamesClass c).fields.map FieldDecl.name).count name = 1 :=
    fun name hname => hnames.count_eq_one (nodup_actionNames c) hname
  refine ⟨⟨_, _, nestedClass?_actionNames g c area views,
    nestedClass?_actionConstants g c area views, hnames, holdsNames_namesClass _ _ _, ?stubs,
    ?overrides⟩, ?hooks, ?parameterless⟩
  case stubs =>
    intro m hm name hname
    rw [methods_partialClass, List.mem_append] at hm
    rcases hm with hm | hm
    · rw [membersOf_redirectMethods g hm] at hname
      exact absurd hname List.not_mem_nil
    · obtain ⟨action, haction, rfl⟩ := List.mem_map.1 hm
      have hstub : (g.actionStub action).membersOf "ActionNames" = [action] := rfl
      rw [hstub, List.mem_singleton] at hname
      exact hcount name (hname ▸ (List.mem_filter.1 haction).1)
  case overrides =>
    exact fun m hm => ⟨membersOf_overrideMethod g m, hcount _ (hmem m hm)⟩
  case hooks =>
    intro overrides hoverrides
    obtain ⟨ns, -, rfl⟩ := map_eq_ok_iff.1 hoverrides
    exact methods_overrideClassIn g c ns
  case parameterless =>
    intro action haction
    have haction : action ∈ c.actionNames := List.mem_eraseDups.2 haction
    rw [methods_partialClass, List.countP_append, countP_redirectMethods,
      countP_actionStubs g c haction, Nat.zero_add]
    simp only [hasParameterless_iff]

/-- An action that returns a type whose path begins with `ActionNames`. -/
def waitAction : Controller.Method :=
  ⟨"Wait", [], ⟨"ActionNames.Task", [.named "int"]⟩, .publicAccess, false⟩

/-- The controller of that action. -/
def waitController : Controller :=
  { Controller.empty "JobsController" "App" with methods := [waitAction] }

/-- The override of that action asks `ActionNames` for `Task`, which is not declared. -/
theorem not_declared_waitAction :
    ¬∀ (g : Generator) (c : Controller) (area : String) (views overrides names : ClassDecl),
      g.overrideClass c = .ok overrides →
      (g.partialClass c area views).nestedClass? "ActionNamesClass" = some names →
      ∀ m ∈ overrides.methods, ∀ name ∈ m.membersOf "ActionNames",
        (names.fields.map FieldDecl.name).count name = 1 := by
  intro hall
  have hoverrides : standard.overrideClass waitController
      = .ok (standard.overrideClassIn waitController "App") := rfl
  have hmem : standard.overrideMethod waitAction
      ∈ (standard.overrideClassIn waitController "App").methods := by
    rw [methods_overrideClassIn]
    exact List.mem_flatMap.2 ⟨waitAction, by decide, by simp [overridePair]⟩
  have hname : "Task" ∈ (standard.overrideMethod waitAction).membersOf "ActionNames" := by
    decide +kernel
  have hcount := hall standard waitController "" default _ _ hoverrides
    (nestedClass?_actionNames standard waitController "" default) _ hmem "Task" hname
  exact absurd hcount (by decide +kernel)

end ControllerCompanion.Generator
