import ControllerCompanion.Declaration.Basic

set_option autoImplicit false

/-! # The types of a declaration

The type references that a tree of declarations holds, at whatever depth: as the types of fields
and parameters, as base types, and inside expressions. -/

namespace ControllerCompanion

/-! ## Expressions and statements -/

mutual

/-- The types in an expression. -/
def Expr.types : Expr → List TypeRef
  | .ident _ => []
  | .stringLiteral _ => []
  | .memberAccess target _ => Expr.types target
  | .invocation target args => Expr.types target ++ Expr.typesList args
  | .objectCreation type args => type :: Expr.typesList args
  | .asType expr type => Expr.types expr ++ [type]

/-- The types in several expressions. -/
def Expr.typesList : List Expr → List TypeRef
  | [] => []
  | e :: es => Expr.types e ++ Expr.typesList es

end

theorem Expr.typesList_eq_flatMap (es : List Expr) : Expr.typesList es = es.flatMap Expr.types := by
  induction es with
  | nil => rfl
  | cons e es ih => rw [Expr.typesList, ih, List.flatMap_cons]

/-- The types in a statement. -/
def Stmt.types : Stmt → List TypeRef
  | .declare _ init => init.types
  | .expression expr => expr.types
  | .result expr => expr.types

/-! ## Members -/

/-- The types in an attribute. -/
def Attribute.types (a : Attribute) : List TypeRef := a.args.flatMap Expr.types

/-- The types in a field. -/
def FieldDecl.types (f : FieldDecl) : List TypeRef :=
  f.type :: f.initializer.toList.flatMap Expr.types

/-- The types in a property. -/
def PropertyDecl.types (p : PropertyDecl) : List TypeRef := p.type :: p.getter.types

/-- The types in what a constructor hands on. -/
def ConstructorInitializer.types : ConstructorInitializer → List TypeRef
  | .base args => args.flatMap Expr.types

/-- The types in a constructor. -/
def ConstructorDecl.types (c : ConstructorDecl) : List TypeRef :=
  c.parameters.map Parameter.type ++ c.initializer.toList.flatMap ConstructorInitializer.types
    ++ c.body.flatMap Stmt.types ++ c.attributes.flatMap Attribute.types

/-- The types in a method. -/
def MethodDecl.types (m : MethodDecl) : List TypeRef :=
  m.returnType :: m.parameters.map Parameter.type ++ (m.body.getD []).flatMap Stmt.types
    ++ m.attributes.flatMap Attribute.types

/-! ## Classes -/

mutual

/-- The types in a class. -/
def ClassDecl.types : ClassDecl → List TypeRef
  | ⟨_, _, _, baseTypes, attributes, members⟩ =>
    baseTypes ++ attributes.flatMap Attribute.types ++ Member.typesList members

/-- The types in a member. -/
def Member.types : Member → List TypeRef
  | .field f => f.types
  | .property p => p.types
  | .constructor c => c.types
  | .method m => m.types
  | .nestedClass c => ClassDecl.types c

/-- The types in several members. -/
def Member.typesList : List Member → List TypeRef
  | [] => []
  | m :: ms => Member.types m ++ Member.typesList ms

end

theorem Member.typesList_eq_flatMap (ms : List Member) :
    Member.typesList ms = ms.flatMap Member.types := by
  induction ms with
  | nil => rfl
  | cons m ms ih => rw [Member.typesList, ih, List.flatMap_cons]

theorem ClassDecl.types_eq (c : ClassDecl) :
    c.types = c.baseTypes ++ c.attributes.flatMap Attribute.types
      ++ c.members.flatMap Member.types := by
  cases c with
  | mk name modifiers typeParameters baseTypes attributes members =>
      rw [ClassDecl.types, Member.typesList_eq_flatMap]

/-- The types in a namespace. -/
def NamespaceDecl.types (n : NamespaceDecl) : List TypeRef := n.classes.flatMap ClassDecl.types

end ControllerCompanion
