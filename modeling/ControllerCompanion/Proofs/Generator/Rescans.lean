import ControllerCompanion.Proofs.Generator.Groups
import ControllerCompanion.Proofs.Outcome
import Mathlib.Data.List.Forall2
import Mathlib.Data.List.Perm.Basic

set_option autoImplicit false

/-! # Generating again

A generation sees the surface of a controller only: its name and namespace, its type parameters,
its actions, and whether it has a public constructor of its own (`namespaces_surface`). So what an
earlier run has generated may stand among the members of a controller, wherever it was put in, and
the same is generated again (`namespaces_rescan`). -/

namespace ControllerCompanion

namespace Controller

/-! ## The surface of a controller -/

/-- Two controllers agree on everything that a generation looks at. -/
structure Agrees (c d : Controller) : Prop where
  name : c.name = d.name
  namespaceText : c.namespaceText = d.namespaceText
  typeParameters : c.typeParameters = d.typeParameters
  actions : c.methods.filter Method.isAction = d.methods.filter Method.isAction
  publicConstructor :
    (∃ k ∈ c.constructors, k.accessibility = .publicAccess ∧ k.generated = false) ↔
      ∃ k ∈ d.constructors, k.accessibility = .publicAccess ∧ k.generated = false

/-- The controller with nothing but what a generation looks at. -/
def surface (c : Controller) : Controller where
  name := c.name
  namespaceText := c.namespaceText
  baseType := none
  typeParameters := c.typeParameters
  constructors := if c.hasPublicConstructor then [{}] else []
  methods := c.actions

theorem hasPublicConstructor_iff {c : Controller} : c.hasPublicConstructor = true ↔
    ∃ k ∈ c.constructors, k.accessibility = .publicAccess ∧ k.generated = false := by
  simp [hasPublicConstructor]

theorem Agrees.surface_eq {c d : Controller} (h : c.Agrees d) : c.surface = d.surface := by
  have hconstructor : c.hasPublicConstructor = d.hasPublicConstructor := by
    rw [Bool.eq_iff_iff, hasPublicConstructor_iff, hasPublicConstructor_iff]
    exact h.publicConstructor
  have hactions : c.actions = d.actions := h.actions
  rw [surface, surface, h.name, h.namespaceText, h.typeParameters, hactions, hconstructor]

@[simp] theorem actions_surface (c : Controller) : c.surface.actions = c.actions := by
  simp [surface, actions]

@[simp] theorem hasPublicConstructor_surface (c : Controller) :
    c.surface.hasPublicConstructor = c.hasPublicConstructor := by
  have hconstructors : c.surface.constructors = if c.hasPublicConstructor then [{}] else [] := rfl
  rw [hasPublicConstructor, hconstructors]
  cases c.hasPublicConstructor <;> rfl

@[simp] theorem actionNames_surface (c : Controller) : c.surface.actionNames = c.actionNames := by
  rw [actionNames, actions_surface, actionNames]

end Controller

/-! ## Members put in -/

/-- `merged` are the old entries in their order, with the new ones put in anywhere. -/
structure Inserted {α : Type} (old new merged : List α) : Prop where
  sublist : old.Sublist merged
  perm : merged.Perm (old ++ new)

namespace Inserted

variable {α : Type} {old new merged : List α}

theorem front (old new : List α) : Inserted old new (new ++ old) where
  sublist := List.sublist_append_right new old
  perm := List.perm_append_comm

/-- New entries without a property do not show among those that have it. -/
theorem filter_eq (h : Inserted old new merged) {p : α → Bool} (hnew : ∀ x ∈ new, p x = false) :
    merged.filter p = old.filter p := by
  have hnone : new.filter p = [] := List.filter_eq_nil_iff.2 fun x hx => by simp [hnew x hx]
  have hperm : (merged.filter p).Perm (old.filter p) := by
    simpa [hnone] using h.perm.filter p
  exact ((h.sublist.filter p).eq_of_length hperm.length_eq.symm).symm

theorem mem_iff (h : Inserted old new merged) {x : α} : x ∈ merged ↔ x ∈ old ∨ x ∈ new := by
  rw [h.perm.mem_iff, List.mem_append]

end Inserted

/-! ## Reading generated members -/

/-- Who can use a generated member. -/
def Accessibility.ofModifiers (modifiers : List Modifier) : Accessibility :=
  if modifiers.contains .isPublic then .publicAccess
  else if modifiers.contains .isProtected then .protectedAccess
  else .privateAccess

namespace Controller

/-- A generated method as a later run meets it. -/
def Method.ofDecl (m : MethodDecl) : Method where
  name := m.name
  parameters := m.parameters.map fun p => ⟨p.name, p.type⟩
  returnType := m.returnType
  accessibility := .ofModifiers m.modifiers
  generated := true

/-- A generated constructor as a later run meets it. -/
def Constructor.ofDecl (k : ConstructorDecl) : Constructor where
  accessibility := .ofModifiers k.modifiers
  parameterCount := k.parameters.length
  generated := true

/-- The controller `d` is `c` with the methods and constructors of generated classes put in. -/
structure IsRescan (classes : List ClassDecl) (c d : Controller) : Prop where
  name : c.name = d.name
  namespaceText : c.namespaceText = d.namespaceText
  typeParameters : c.typeParameters = d.typeParameters
  methods : Inserted c.methods ((classes.flatMap ClassDecl.methods).map Method.ofDecl) d.methods
  constructors : Inserted c.constructors
    ((classes.flatMap ClassDecl.constructors).map Constructor.ofDecl) d.constructors

/-- A controller with the methods and constructors of generated classes before its own. -/
def withGenerated (c : Controller) (classes : List ClassDecl) : Controller :=
  { c with
    methods := (classes.flatMap ClassDecl.methods).map Method.ofDecl ++ c.methods
    constructors := (classes.flatMap ClassDecl.constructors).map Constructor.ofDecl
      ++ c.constructors }

theorem isRescan_withGenerated (c : Controller) (classes : List ClassDecl) :
    IsRescan classes c (c.withGenerated classes) :=
  ⟨rfl, rfl, rfl, .front _ _, .front _ _⟩

/-- Generated members are below the surface. -/
theorem IsRescan.agrees {classes : List ClassDecl} {c d : Controller} (h : IsRescan classes c d) :
    c.Agrees d := by
  refine ⟨h.name, h.namespaceText, h.typeParameters, ?actions, ?publicConstructor⟩
  case actions =>
    refine (h.methods.filter_eq fun m hm => ?_).symm
    obtain ⟨decl, -, rfl⟩ := List.mem_map.1 hm
    simp [Method.isAction, Method.ofDecl]
  case publicConstructor =>
    refine ⟨fun ⟨k, hk, hpublic⟩ => ⟨k, h.constructors.mem_iff.2 (.inl hk), hpublic⟩, ?_⟩
    rintro ⟨k, hk, hpublic, hown⟩
    rcases h.constructors.mem_iff.1 hk with hold | hnew
    · exact ⟨k, hold, hpublic, hown⟩
    · obtain ⟨decl, -, rfl⟩ := List.mem_map.1 hnew
      exact absurd hown (by simp [Constructor.ofDecl])

end Controller

namespace Generator

open Controller

variable (g : Generator)

/-! ## The two classes -/

theorem partialClass_surface (c : Controller) (area : String) (views : ClassDecl) :
    g.partialClass c.surface area views = g.partialClass c area views := by
  have hstubs : g.actionStubs c.surface = g.actionStubs c := by
    simp only [actionStubs, hasParameterless, actions_surface, actionNames_surface]
  have hconstructors : g.partialConstructors c.surface = g.partialConstructors c := by
    simp only [partialConstructors, hasPublicConstructor_surface]
    rfl
  simp only [partialClass, hconstructors, hstubs, actionNamesClass, actionConstantsClass,
    actionNames_surface]
  rfl

theorem overrideClassIn_surface (c : Controller) (ns : String) :
    g.overrideClassIn c.surface ns = g.overrideClassIn c ns := by
  simp only [overrideClassIn, actions_surface]
  rfl

@[simp] theorem resolve_surface (c : Controller) : resolve c.surface = resolve c := rfl

theorem overrideClass_surface (c : Controller) : g.overrideClass c.surface = g.overrideClass c := by
  simp only [overrideClass, resolve_surface, funext (g.overrideClassIn_surface c)]

/-! ## The pass -/

/-- A group with the surfaces of its controllers. -/
def surfaces (group : String × List Controller) : String × List Controller :=
  (group.1, group.2.map surface)

theorem groupsOf_surface (cs : List Controller) :
    groupsOf (cs.map surface) = (groupsOf cs).map surfaces := by
  have htexts : namespaceTexts (cs.map surface) = namespaceTexts cs := by
    rw [namespaceTexts, List.filterMap_map]
    rfl
  have hcontrollers : ∀ ns, controllersOf (cs.map surface) ns = (controllersOf cs ns).map surface :=
    fun ns => List.filter_map
  rw [groupsOf, htexts, groupsOf, List.map_map]
  exact List.map_congr_left fun ns _ => congrArg (Prod.mk ns) (hcontrollers ns)

theorem addControllers_surface (area : String) (views : ClassDecl) (n : NamespaceDecl)
    (cs : List Controller) :
    g.addControllers area views n (cs.map surface) = g.addControllers area views n cs := by
  induction cs generalizing n with
  | nil => rfl
  | cons c cs ih =>
      simp only [List.map_cons, addControllers, overrideClass_surface, partialClass_surface]
      cases g.overrideClass c with
      | error e => rfl
      | ok overrides => exact ih _

theorem namespacesOfGroups_surface (views : ClassDecl) (groups : List (String × List Controller)) :
    g.namespacesOfGroups views (groups.map surfaces) = g.namespacesOfGroups views groups := by
  induction groups with
  | nil => rfl
  | cons group rest ih =>
      obtain ⟨ns, cs⟩ := group
      simp only [List.map_cons, surfaces, namespacesOfGroups, addControllers_surface]
      cases g.addControllers (g.areaOf ns) views (.empty ns) cs with
      | error e => rfl
      | ok n => simp only [ih]

/-- **A generation sees the surfaces of the controllers only.** -/
theorem namespaces_surface (cs : List Controller) (views : List View) :
    g.namespaces (cs.map surface) views = g.namespaces cs views := by
  have hfind : (cs.map surface).find? (·.resolvedNamespace.isNone)
      = (cs.find? (·.resolvedNamespace.isNone)).map surface := List.find?_map
  rw [namespaces, groupByNamespace_eq, hfind, namespaces, groupByNamespace_eq, groupsOf_surface]
  cases cs.find? (·.resolvedNamespace.isNone) with
  | some c => rfl
  | none => exact g.namespacesOfGroups_surface _ (groupsOf cs)

/-- Controllers that agree one by one have the same surfaces. -/
theorem map_surface_eq {cs ds : List Controller} (h : List.Forall₂ Agrees cs ds) :
    cs.map surface = ds.map surface := by
  induction h with
  | nil => rfl
  | cons hcd _ ih => rw [List.map_cons, List.map_cons, hcd.surface_eq, ih]

/-- **Controllers that agree one by one make one generation**, also if it fails. In particular,
what is generated stays as it is when the methods and constructors of any generated classes are put
in among the members of the controllers. -/
theorem namespaces_rescan (views : List View) :
    (∀ cs ds : List Controller, List.Forall₂ Agrees cs ds →
      g.namespaces cs views = g.namespaces ds views) ∧
    ∀ (cs ds : List Controller) (ns : List NamespaceDecl), g.namespaces cs views = .ok ns →
      List.Forall₂ (fun c d => ∃ classes : List ClassDecl,
        (∀ k ∈ classes, ∃ n ∈ ns, k ∈ n.classes) ∧ IsRescan classes c d) cs ds →
      g.namespaces ds views = .ok ns := by
  have hagree : ∀ cs ds : List Controller, List.Forall₂ Agrees cs ds →
      g.namespaces cs views = g.namespaces ds views := by
    intro cs ds h
    rw [← namespaces_surface, map_surface_eq h, namespaces_surface]
  refine ⟨hagree, fun cs ds ns hns h => ?_⟩
  rw [← hns]
  exact (hagree cs ds (h.imp fun c d ⟨_, _, hrescan⟩ => hrescan.agrees)).symm

/-- A controller with an action, for which a stub is generated. -/
def ordersController : Controller :=
  { Controller.empty "OrdersController" "App.Controllers" with
    methods := [⟨"Save", [⟨"id", .named "int"⟩], .named "IActionResult", .publicAccess, false⟩] }

/-- The same controller with a private method, a constructor and no base type. -/
def ordersWithHelper : Controller :=
  { ordersController with
    baseType := none
    constructors := [⟨.protectedAccess, 2, false⟩]
    methods := ⟨"Check", [], .named "void", .privateAccess, false⟩ :: ordersController.methods }

/-- Neither the private members nor all that was generated change what is generated. -/
theorem namespaces_rescan_orders :
    standard.namespaces [ordersController] [] = standard.namespaces [ordersWithHelper] [] ∧
      ∃ ns, standard.namespaces [ordersController] [] = .ok ns ∧
        standard.namespaces [ordersController.withGenerated (ns.flatMap NamespaceDecl.classes)] []
          = .ok ns := by
  obtain ⟨hagree, hrescan⟩ := namespaces_rescan standard []
  have hagrees : ordersController.Agrees ordersWithHelper :=
    ⟨rfl, rfl, rfl, by decide, by decide⟩
  refine ⟨hagree _ _ (.cons hagrees .nil), ?_⟩
  have hok : (standard.namespaces [ordersController] []).toOption.isSome = true := by decide
  obtain ⟨ns, hns⟩ := Option.isSome_iff_exists.1 hok
  have hns := eq_ok_of_toOption hns
  refine ⟨ns, hns, hrescan _ _ ns hns (.cons ⟨ns.flatMap NamespaceDecl.classes, ?_, ?_⟩ .nil)⟩
  · exact fun k hk => List.mem_flatMap.1 hk
  · exact isRescan_withGenerated _ _

end Generator

end ControllerCompanion
