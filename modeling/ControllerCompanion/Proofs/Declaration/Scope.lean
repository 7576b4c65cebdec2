import ControllerCompanion.Declaration.Basic
import Mathlib.Data.List.Basic
import Mathlib.Data.List.Induction

set_option autoImplicit false

/-! # Scopes

What an identifier in the body of a method refers to. A parameter and a local variable hide what
has the same name outside the method, and a local variable does so in the whole body, also before
it is declared. An identifier that the method does not bind in this way is free: it refers to a
member of the class or to something outside of it. -/

namespace ControllerCompanion

mutual

/-- The identifiers in an expression. The member of a member access is none: it is looked up in
    the target. -/
def Expr.idents : Expr → List String
  | .ident name => [name]
  | .stringLiteral _ => []
  | .memberAccess target _ => Expr.idents target
  | .invocation target args => Expr.idents target ++ Expr.identsList args
  | .objectCreation _ args => Expr.identsList args
  | .asType expr _ => Expr.idents expr

/-- The identifiers in several expressions. -/
def Expr.identsList : List Expr → List String
  | [] => []
  | e :: es => Expr.idents e ++ Expr.identsList es

end

theorem Expr.identsList_map_ident {α : Type} (name : α → String) (as : List α) :
    Expr.identsList (as.map fun a => .ident (name a)) = as.map name := by
  induction as with
  | nil => rfl
  | cons a as ih => rw [List.map_cons, Expr.identsList, ih, Expr.idents, List.map_cons]; rfl

/-- Whether the expression is the identifier of a name. -/
def Expr.isIdent (name : String) : Expr → Bool
  | .ident other => other == name
  | _ => false

mutual

/-- The members that an expression asks an identifier for: every `member` in `root.member`. -/
def Expr.membersOf (root : String) : Expr → List String
  | .ident _ => []
  | .stringLiteral _ => []
  | .memberAccess target member =>
    Expr.membersOf root target ++ if target.isIdent root then [member] else []
  | .invocation target args => Expr.membersOf root target ++ Expr.membersOfList root args
  | .objectCreation _ args => Expr.membersOfList root args
  | .asType expr _ => Expr.membersOf root expr

/-- The members that several expressions ask an identifier for. -/
def Expr.membersOfList (root : String) : List Expr → List String
  | [] => []
  | e :: es => Expr.membersOf root e ++ Expr.membersOfList root es

end

theorem Expr.membersOfList_map_ident {α : Type} (root : String) (name : α → String)
    (as : List α) : Expr.membersOfList root (as.map fun a => .ident (name a)) = [] := by
  induction as with
  | nil => rfl
  | cons a as ih => rw [List.map_cons, Expr.membersOfList, ih, Expr.membersOf, List.nil_append]

/-- The expression of a path asks its first part for the second one, and for nothing if it has no
    second part. -/
theorem Expr.membersOf_foldl_memberAccess (root first : String) (parts : List String) :
    (parts.foldl Expr.memberAccess (.ident first)).membersOf root
      = if first = root then parts.head?.toList else [] := by
  induction parts using List.reverseRecOn with
  | nil => simp [Expr.membersOf]
  | append_singleton parts part ih =>
      rw [List.foldl_append, List.foldl_cons, List.foldl_nil, Expr.membersOf, ih]
      rcases List.eq_nil_or_concat' parts with rfl | ⟨front, last, rfl⟩
      · simp [Expr.isIdent]
      · simp [List.foldl_append, Expr.isIdent]

/-- The identifiers in a statement. -/
def Stmt.idents : Stmt → List String
  | .declare _ init => init.idents
  | .expression expr => expr.idents
  | .result expr => expr.idents

/-- The members that a statement asks an identifier for. -/
def Stmt.membersOf (root : String) : Stmt → List String
  | .declare _ init => init.membersOf root
  | .expression expr => expr.membersOf root
  | .result expr => expr.membersOf root

/-- The local variable that a statement declares. -/
def Stmt.declared? : Stmt → Option String
  | .declare name _ => some name
  | .expression _ => none
  | .result _ => none

namespace MethodDecl

/-- The identifiers in the body of a method. -/
def idents (m : MethodDecl) : List String := (m.body.getD []).flatMap Stmt.idents

/-- The members that the body of a method asks an identifier for. -/
def membersOf (root : String) (m : MethodDecl) : List String :=
  (m.body.getD []).flatMap (Stmt.membersOf root)

/-- The names that a method binds: its parameters and the local variables of its body. -/
def boundNames (m : MethodDecl) : List String :=
  m.parameters.map Parameter.name ++ (m.body.getD []).filterMap Stmt.declared?

/-- The identifiers in the body of a method that refer to something outside the method. -/
def freeNames (m : MethodDecl) : List String := m.idents.filter fun name => name ∉ m.boundNames

theorem mem_freeNames_iff {m : MethodDecl} {name : String} :
    name ∈ m.freeNames ↔ name ∈ m.idents ∧ name ∉ m.boundNames := by
  simp [freeNames]

end MethodDecl

end ControllerCompanion
