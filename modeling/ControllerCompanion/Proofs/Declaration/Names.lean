import ControllerCompanion.Proofs.Declaration.Scope

set_option autoImplicit false

/-! # The names that a declaration declares

The names of classes, members, type parameters, parameters and local variables, at whatever depth.
A nested class that goes by the name `hidden` is seen from outside only: its own name counts, but
not what stands in it. -/

namespace ControllerCompanion

/-! ## Members -/

/-- The names in a constructor: that of its class, its parameters, and its local variables. -/
def ConstructorDecl.declaredNames (k : ConstructorDecl) : List String :=
  k.className :: k.parameters.map Parameter.name ++ k.body.filterMap Stmt.declared?

/-- The names in a method: its own, its parameters, and its local variables. -/
def MethodDecl.declaredNames (m : MethodDecl) : List String := m.name :: m.boundNames

/-! ## Classes -/

mutual

/-- The names in a class. -/
def ClassDecl.declaredNames (hidden : String) : ClassDecl → List String
  | ⟨name, _, typeParameters, _, _, members⟩ =>
    name :: typeParameters ++ Member.declaredNamesList hidden members

/-- The names in a member. -/
def Member.declaredNames (hidden : String) : Member → List String
  | .field f => [f.name]
  | .property p => [p.name]
  | .constructor k => k.declaredNames
  | .method m => m.declaredNames
  | .nestedClass c => if c.name = hidden then [c.name] else ClassDecl.declaredNames hidden c

/-- The names in several members. -/
def Member.declaredNamesList (hidden : String) : List Member → List String
  | [] => []
  | m :: ms => Member.declaredNames hidden m ++ Member.declaredNamesList hidden ms

end

theorem Member.declaredNamesList_eq_flatMap (hidden : String) (ms : List Member) :
    Member.declaredNamesList hidden ms = ms.flatMap (Member.declaredNames hidden) := by
  induction ms with
  | nil => rfl
  | cons m ms ih => rw [Member.declaredNamesList, ih, List.flatMap_cons]

theorem ClassDecl.declaredNames_eq (hidden : String) (c : ClassDecl) :
    c.declaredNames hidden
      = c.name :: c.typeParameters ++ c.members.flatMap (Member.declaredNames hidden) := by
  cases c with
  | mk name modifiers typeParameters baseTypes attributes members =>
      rw [ClassDecl.declaredNames, Member.declaredNamesList_eq_flatMap]

/-- The names in the classes of a namespace. -/
def NamespaceDecl.declaredNames (hidden : String) (n : NamespaceDecl) : List String :=
  n.classes.flatMap (ClassDecl.declaredNames hidden)

end ControllerCompanion
