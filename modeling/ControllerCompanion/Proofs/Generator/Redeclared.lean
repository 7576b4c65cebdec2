import ControllerCompanion.Proofs.Generator.Actions
import ControllerCompanion.Proofs.Generator.Rescans

set_option autoImplicit false

/-! # What a partial class declares again

A partial class and the class of its controller share their members, so neither may declare what the
other one has. The generated members without parameters are kept apart from the public members of
the controller, and from these only (`declaresAgain_iff_not_public`). A stub clashes with a
method that is not public, and a default constructor is added beside constructors that are not
public, whatever their parameters are. -/

namespace ControllerCompanion.Generator

variable (g : Generator) (c : Controller)

/-! ## Methods -/

/-- A class has a method without parameters of the same name as a method of a controller that has
    no parameters either. -/
def DeclaresAgain (k : ClassDecl) (m : Controller.Method) : Prop :=
  m.parameters = [] ∧ ∃ d ∈ k.methods, d.name = m.name ∧ d.parameters = []

/-- The methods of a partial class that have no parameters are the stubs. -/
theorem parameterless_partialClass (area : String) (views : ClassDecl) {d : MethodDecl} :
    d ∈ (g.partialClass c area views).methods ∧ d.parameters = [] ↔ d ∈ g.actionStubs c := by
  have hstubs : ∀ d ∈ g.actionStubs c, d.parameters = [] := by
    intro d hd
    obtain ⟨action, -, rfl⟩ := List.mem_map.1 hd
    rfl
  rw [methods_partialClass, List.mem_append]
  constructor
  · rintro ⟨hd | hd, hparameters⟩
    · exact absurd hparameters (isRedirect_of_mem g hd).parameters
    · exact hd
  · intro hd
    exact ⟨.inr hd, hstubs d hd⟩

theorem exists_actionStub_iff {name : String} :
    (∃ d ∈ g.actionStubs c, d.name = name) ↔
      (∃ a ∈ c.actions, a.name = name) ∧ ∀ a ∈ c.actions, a.name = name → a.parameters ≠ [] := by
  have hname : (∃ d ∈ g.actionStubs c, d.name = name) ↔
      name ∈ c.actionNames ∧ ¬hasParameterless c name = true := by
    simp [actionStubs, actionStub]
  rw [hname, mem_actionNames_iff, hasParameterless_iff]
  push Not
  rfl

/-- A method is declared again exactly if it needs no arguments and is called like an action all of
    whose methods need some. -/
theorem declaresAgain_partialClass_iff (area : String) (views : ClassDecl)
    (m : Controller.Method) :
    DeclaresAgain (g.partialClass c area views) m ↔
      m.parameters = [] ∧ (∃ a ∈ c.actions, a.name = m.name) ∧
        ∀ a ∈ c.actions, a.name = m.name → a.parameters ≠ [] := by
  rw [DeclaresAgain, ← exists_actionStub_iff g]
  simp only [← parameterless_partialClass g c area views]
  grind

/-! ## Constructors -/

theorem constructors_partialClass (area : String) (views : ClassDecl) :
    (g.partialClass c area views).constructors.map ConstructorDecl.parameters
      = (if c.hasPublicConstructor then [] else [[]])
        ++ [[⟨ClassDecl.markerParameter, g.marker⟩]] := by
  rw [ClassDecl.constructors, members_partialClass, List.filterMap_append, List.filterMap_append,
    members_partialConstructors, List.filterMap_map]
  cases c.hasPublicConstructor <;> simp [metadataMembers]

/-- There is a constructor without parameters exactly if no constructor of the controller counts as
    public. -/
theorem exists_parameterless_constructor_iff (area : String) (views : ClassDecl) :
    (∃ k ∈ (g.partialClass c area views).constructors, k.parameters = []) ↔
      ∀ k ∈ c.constructors, k.generated = false → k.accessibility ≠ .publicAccess := by
  have hparameters : (∃ k ∈ (g.partialClass c area views).constructors, k.parameters = []) ↔
      [] ∈ (g.partialClass c area views).constructors.map ConstructorDecl.parameters := by
    rw [List.mem_map]
  have hpublic : c.hasPublicConstructor = false ↔
      ∀ k ∈ c.constructors, k.generated = false → k.accessibility ≠ .publicAccess := by
    rw [← Bool.not_eq_true, Controller.hasPublicConstructor_iff]
    grind
  rw [hparameters, constructors_partialClass, ← hpublic]
  cases c.hasPublicConstructor <;> simp

/-! ## Both -/

/-- **Nothing that is public is declared again.** A stub declares a method of the controller again
exactly if that method is not public, needs no arguments, and is called like an action all of whose
methods need some. A constructor without parameters is added exactly if the controller has no public
constructor of its own. -/
theorem declaresAgain_iff_not_public (area : String) (views : ClassDecl) :
    (∀ m ∈ c.methods, m.generated = false →
      (DeclaresAgain (g.partialClass c area views) m ↔
        m.accessibility ≠ .publicAccess ∧ m.parameters = [] ∧
          (∃ a ∈ c.actions, a.name = m.name) ∧
          ∀ a ∈ c.actions, a.name = m.name → a.parameters ≠ [])) ∧
    ((∃ k ∈ (g.partialClass c area views).constructors, k.parameters = []) ↔
      ∀ k ∈ c.constructors, k.generated = false → k.accessibility ≠ .publicAccess) := by
  refine ⟨?_, exists_parameterless_constructor_iff g c area views⟩
  intro m hm hown
  rw [declaresAgain_partialClass_iff]
  constructor
  · rintro ⟨hparameters, hname, hall⟩
    refine ⟨?_, hparameters, hname, hall⟩
    intro hpublic
    -- a public method of its own would be an action that needs no arguments
    have haction : m ∈ c.actions :=
      List.mem_filter.2 ⟨hm, by simp [Controller.Method.isAction, hpublic, hown]⟩
    exact hall m haction rfl hparameters
  · rintro ⟨-, hparameters, hname, hall⟩
    exact ⟨hparameters, hname, hall⟩

/-- A controller with an action that needs an argument, and with a private method of its name and a
    protected constructor that need none. -/
def editController : Controller :=
  { Controller.empty "UsersController" "App.Controllers" with
    constructors := [⟨.protectedAccess, 0, false⟩]
    methods := [⟨"Edit", [⟨"id", .named "int"⟩], .named "IActionResult", .publicAccess, false⟩,
      ⟨"Edit", [], .named "IActionResult", .privateAccess, false⟩] }

/-- Both of them are declared again. -/
theorem declaresAgain_editController :
    (¬∀ (g : Generator) (c : Controller) (area : String) (views : ClassDecl), ∀ m ∈ c.methods,
      m.generated = false → ¬DeclaresAgain (g.partialClass c area views) m) ∧
    ¬∀ (g : Generator) (c : Controller) (area : String) (views : ClassDecl),
      (∃ k ∈ (g.partialClass c area views).constructors, k.parameters = []) →
        ∀ k ∈ c.constructors, k.generated = false → k.parameterCount ≠ 0 := by
  constructor
  · intro hall
    have hmem : (⟨"Edit", [], .named "IActionResult", .privateAccess, false⟩ : Controller.Method)
        ∈ editController.methods := by decide
    refine hall standard editController "" default _ hmem rfl ?_
    rw [declaresAgain_partialClass_iff]
    decide
  · intro hall
    have hadded : ∃ k ∈ (standard.partialClass editController "" default).constructors,
        k.parameters = [] := by
      rw [exists_parameterless_constructor_iff]
      decide
    have hmem : (⟨.protectedAccess, 0, false⟩ : Controller.Constructor)
        ∈ editController.constructors := by decide
    exact hall standard editController "" default hadded _ hmem rfl rfl

end ControllerCompanion.Generator
