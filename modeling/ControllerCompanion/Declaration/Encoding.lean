import ControllerCompanion.Declaration.Basic
import ControllerCompanion.TypeRef.Printer
import ControllerCompanion.Json.Value

set_option autoImplicit false

/-! # Declarations as JSON

How a tree of declarations is written. Types go by their texts; members, expressions and
statements say by a tag what they are; lists that may be left out are left out when they are
empty. -/

namespace ControllerCompanion

open Json

/-- A type by its text. -/
def TypeRef.encode (t : TypeRef) : Json := .string t.text

/-- The name a modifier is written by. -/
def Modifier.keyword : Modifier → String
  | .isPublic => "public"
  | .isProtected => "protected"
  | .isStatic => "static"
  | .isReadonly => "readonly"
  | .isConst => "const"
  | .isPartial => "partial"
  | .isVirtual => "virtual"
  | .isOverride => "override"

/-- A list of modifiers. -/
def Modifier.encodeList (ms : List Modifier) : Json := .array (ms.map fun m => .string m.keyword)

mutual

/-- An expression. -/
def Expr.encode : Expr → Json
  | .ident name => .object [("kind", .string "ident"), ("name", .string name)]
  | .stringLiteral value =>
    .object [("kind", .string "string_literal"), ("value", .string value)]
  | .memberAccess target member =>
    .object [("kind", .string "member_access"), ("target", Expr.encode target),
      ("member", .string member)]
  | .invocation target args =>
    .object [("kind", .string "invocation"), ("target", Expr.encode target),
      ("args", .array (Expr.encodeList args))]
  | .objectCreation type args =>
    .object [("kind", .string "object_creation"), ("ty", type.encode),
      ("args", .array (Expr.encodeList args))]
  | .asType expr type =>
    .object [("kind", .string "as"), ("expr", Expr.encode expr), ("ty", type.encode)]

/-- Several expressions. -/
def Expr.encodeList : List Expr → List Json
  | [] => []
  | e :: es => Expr.encode e :: Expr.encodeList es

end

/-- A statement. -/
def Stmt.encode : Stmt → Json
  | .declare name init =>
    .object [("kind", .string "local"), ("name", .string name), ("init", init.encode)]
  | .expression expr => .object [("kind", .string "expr"), ("expr", expr.encode)]
  | .result expr => .object [("kind", .string "return"), ("expr", expr.encode)]

/-- The statements of a body. -/
def Stmt.encodeList (body : List Stmt) : Json := .array (body.map Stmt.encode)

/-- An attribute. -/
def Attribute.encode (a : Attribute) : Json :=
  .object (("name", .string a.name) :: memberIfAny "args" Expr.encode a.args)

/-- A parameter. -/
def Parameter.encode (p : Parameter) : Json :=
  .object [("name", .string p.name), ("ty", p.type.encode)]

/-- The members of a field's object. -/
def FieldDecl.encodeMembers (f : FieldDecl) : List (String × Json) :=
  [("name", .string f.name), ("ty", f.type.encode),
    ("modifiers", Modifier.encodeList f.modifiers)]
    ++ memberIfSome "initializer" Expr.encode f.initializer

/-- The members of a property's object. -/
def PropertyDecl.encodeMembers (p : PropertyDecl) : List (String × Json) :=
  [("name", .string p.name), ("ty", p.type.encode),
    ("modifiers", Modifier.encodeList p.modifiers), ("getter", p.getter.encode)]

/-- An initializer, with its tag beside its arguments. -/
def ConstructorInitializer.encode : ConstructorInitializer → Json
  | .base args => .object [("kind", .string "base"), ("args", .array (args.map Expr.encode))]

/-- The members of a constructor's object. -/
def ConstructorDecl.encodeMembers (c : ConstructorDecl) : List (String × Json) :=
  [("class_name", .string c.className), ("modifiers", Modifier.encodeList c.modifiers),
    ("parameters", .array (c.parameters.map Parameter.encode))]
    ++ memberIfSome "initializer" ConstructorInitializer.encode c.initializer
    ++ [("body", Stmt.encodeList c.body)]
    ++ memberIfAny "attributes" Attribute.encode c.attributes

/-- The members of a method's object. A missing body is written as `null`. -/
def MethodDecl.encodeMembers (m : MethodDecl) : List (String × Json) :=
  [("name", .string m.name), ("return_type", m.returnType.encode),
    ("modifiers", Modifier.encodeList m.modifiers),
    ("parameters", .array (m.parameters.map Parameter.encode)),
    ("body", nullable Stmt.encodeList m.body)]
    ++ memberIfAny "attributes" Attribute.encode m.attributes

mutual

/-- The members of a class's object. -/
def ClassDecl.encodeMembers : ClassDecl → List (String × Json)
  | ⟨name, modifiers, typeParameters, baseTypes, attributes, members⟩ =>
    [("name", .string name), ("modifiers", Modifier.encodeList modifiers)]
      ++ memberIfAny "type_parameters" .string typeParameters
      ++ memberIfAny "base_types" TypeRef.encode baseTypes
      ++ memberIfAny "attributes" Attribute.encode attributes
      ++ [("members", .array (Member.encodeList members))]

/-- A member, with its tag before its own fields. -/
def Member.encode : Member → Json
  | .field f => .object (("member", .string "field") :: f.encodeMembers)
  | .property p => .object (("member", .string "property") :: p.encodeMembers)
  | .constructor c => .object (("member", .string "constructor") :: c.encodeMembers)
  | .method m => .object (("member", .string "method") :: m.encodeMembers)
  | .nestedClass c => .object (("member", .string "class") :: ClassDecl.encodeMembers c)

/-- Several members. -/
def Member.encodeList : List Member → List Json
  | [] => []
  | m :: ms => Member.encode m :: Member.encodeList ms

end

/-- A class. -/
def ClassDecl.encode (c : ClassDecl) : Json := .object c.encodeMembers

/-- A namespace. -/
def NamespaceDecl.encode (n : NamespaceDecl) : Json :=
  .object [("name", .string n.name), ("classes", .array (n.classes.map ClassDecl.encode))]

end ControllerCompanion
