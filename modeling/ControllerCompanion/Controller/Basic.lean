import ControllerCompanion.TypeRef.Basic
import ControllerCompanion.Controller.Naming

set_option autoImplicit false

/-! # Controllers

The controllers of a project as they are declared: what the generator knows of each class, its
constructors and its methods. -/

namespace ControllerCompanion

/-- Who can use a member. -/
inductive Accessibility where
  | publicAccess
  | protectedAccess
  | internalAccess
  | protectedInternalAccess
  | privateProtectedAccess
  | privateAccess
  deriving Repr, DecidableEq, Inhabited

namespace Controller

/-- A declared constructor. `generated` says that an earlier run of the generator made it. -/
structure Constructor where
  accessibility : Accessibility := .publicAccess
  parameterCount : Nat := 0
  generated : Bool := false
  deriving Repr, DecidableEq, Inhabited

/-- A declared parameter. -/
structure Parameter where
  name : String
  type : TypeRef
  deriving Repr, DecidableEq, Inhabited

/-- A declared method. `generated` says that an earlier run of the generator made it. -/
structure Method where
  name : String
  parameters : List Parameter
  returnType : TypeRef
  accessibility : Accessibility
  generated : Bool
  deriving Repr, DecidableEq, Inhabited

/-- Whether the method is an action: public, and not generated. -/
def Method.isAction (m : Method) : Bool := m.accessibility == .publicAccess && !m.generated

end Controller

/-- A declared controller. Without a namespace it could not be found where it stands. -/
structure Controller where
  name : String
  namespaceText : Option String
  baseType : Option TypeRef
  typeParameters : List String
  constructors : List Controller.Constructor
  methods : List Controller.Method
  deriving Repr, DecidableEq, Inhabited

namespace Controller

/-- A controller of a namespace with nothing in it. -/
def empty (name namespaceText : String) : Controller :=
  ⟨name, some namespaceText, some (.named "Controller"), [], [], []⟩

/-- The namespace, unless it is blank. -/
def resolvedNamespace (c : Controller) : Option String :=
  c.namespaceText.filter fun ns => !(trim ns.toList).isEmpty

/-- The actions, in order. -/
def actions (c : Controller) : List Method := c.methods.filter Method.isAction

/-- The names of the actions, each where it first occurs. -/
def actionNames (c : Controller) : List String := (c.actions.map Method.name).eraseDups

/-- Whether there is a public constructor that was not generated. -/
def hasPublicConstructor (c : Controller) : Bool :=
  c.constructors.any fun k => k.accessibility == .publicAccess && !k.generated

/-- The type of the controller, applied to its own type parameters. -/
def selfType (c : Controller) : TypeRef := ⟨c.name, c.typeParameters.map .named⟩

end Controller

end ControllerCompanion
