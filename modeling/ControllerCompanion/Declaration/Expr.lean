import ControllerCompanion.TypeRef.Basic

set_option autoImplicit false

/-! # Expressions and statements

The expressions and statements that the bodies of generated members are made of. -/

namespace ControllerCompanion

/-- An expression. -/
inductive Expr where
  | ident (name : String)
  | stringLiteral (value : String)
  /-- `target.member` -/
  | memberAccess (target : Expr) (member : String)
  /-- `target(args)` -/
  | invocation (target : Expr) (args : List Expr)
  /-- `new type(args)` -/
  | objectCreation (type : TypeRef) (args : List Expr)
  /-- `expr as type` -/
  | asType (expr : Expr) (type : TypeRef)
  deriving Repr, Inhabited

/-- A statement. -/
inductive Stmt where
  /-- `var name = init;` -/
  | declare (name : String) (init : Expr)
  /-- `expr;` -/
  | expression (expr : Expr)
  /-- `return expr;` -/
  | result (expr : Expr)
  deriving Repr, Inhabited

namespace Expr

/-- The expression of a dotted path: its first part is an identifier, and each further one a
    member of what is before it. -/
def path (dotted : String) : Expr :=
  match (dotted.toList.splitOn '.').map String.ofList with
  | [] => .ident ""
  | head :: parts => parts.foldl .memberAccess (.ident head)

end Expr

end ControllerCompanion
