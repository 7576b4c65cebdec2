import ControllerCompanion.Declaration.Basic
import ControllerCompanion.Decoder.Tagged

set_option autoImplicit false

/-! # Reading declarations

How a tree of declarations is read back. Expressions and classes may hold others of their kind to
any depth; their decoders take a bound on the depth, which is the height of what is decoded. -/

namespace ControllerCompanion

open Json Decoder Decoder.Record

/-- A decoder that is told how deep its source can be. -/
def Decoder.bounded {α : Type} (d : Nat → Decoder α) : Decoder α :=
  fun st s => d s.height st s

/-- The decoder at depth zero, where nothing can stand. -/
def Decoder.tooDeep {α : Type} : Decoder α := fun _ _ => .error (.fault .malformed)

/-! ## Modifiers -/

/-- The modifiers by their names. -/
def Modifier.known : List (String × Modifier) :=
  [("public", .isPublic), ("protected", .isProtected), ("static", .isStatic),
    ("readonly", .isReadonly), ("const", .isConst), ("partial", .isPartial),
    ("virtual", .isVirtual), ("override", .isOverride)]

/-- A modifier. -/
def Modifier.decoder : Decoder Modifier := choice Modifier.known

/-! ## Expressions and statements -/

/-- An expression, from a source of a bounded height. -/
def Expr.decoderUpTo : Nat → Decoder Expr
  | 0 => tooDeep
  | depth + 1 =>
    let expr := Expr.decoderUpTo depth
    let fields (name : String) (r : Record Expr) : Decoder Expr := record (.variant "Expr" name) r
    internallyTagged "Expr" "kind"
      [("ident", fields "Ident" ((pure Expr.ident).and (required "name" string))),
        ("string_literal",
          fields "StringLiteral" ((pure Expr.stringLiteral).and (required "value" string))),
        ("member_access",
          fields "MemberAccess" (((pure Expr.memberAccess).and (required "target" expr)).and
            (required "member" string))),
        ("invocation",
          fields "Invocation" (((pure Expr.invocation).and (required "target" expr)).and
            (required "args" (list expr)))),
        ("object_creation",
          fields "ObjectCreation" (((pure Expr.objectCreation).and (required "ty" typeRef)).and
            (required "args" (list expr)))),
        ("as",
          fields "As" (((pure Expr.asType).and (required "expr" expr)).and
            (required "ty" typeRef)))]

/-- An expression. -/
def Expr.decoder : Decoder Expr := bounded Expr.decoderUpTo

/-- A statement. -/
def Stmt.decoder : Decoder Stmt :=
  let fields (name : String) (r : Record Stmt) : Decoder Stmt := record (.variant "Stmt" name) r
  internallyTagged "Stmt" "kind"
    [("local",
        fields "Local" (((pure Stmt.declare).and (required "name" string)).and
          (required "init" Expr.decoder))),
      ("expr", fields "Expr" ((pure Stmt.expression).and (required "expr" Expr.decoder))),
      ("return", fields "Return" ((pure Stmt.result).and (required "expr" Expr.decoder)))]

/-! ## Parts of members -/

/-- An attribute. -/
def Attribute.decoder : Decoder Attribute :=
  record (.structure "Attribute")
    (((pure Attribute.mk).and (required "name" string)).and
      (defaulted "args" [] (list Expr.decoder)))

/-- A parameter. -/
def Parameter.decoder : Decoder Parameter :=
  record (.structure "Parameter")
    (((pure Parameter.mk).and (required "name" string)).and (required "ty" typeRef))

/-- A field. -/
def FieldDecl.decoder : Decoder FieldDecl :=
  record (.structure "FieldDecl")
    (((((pure FieldDecl.mk).and (required "name" string)).and (required "ty" typeRef)).and
      (required "modifiers" (list Modifier.decoder))).and
      (defaulted "initializer" none (nullable Expr.decoder)))

/-- A property. -/
def PropertyDecl.decoder : Decoder PropertyDecl :=
  record (.structure "PropertyDecl")
    (((((pure PropertyDecl.mk).and (required "name" string)).and (required "ty" typeRef)).and
      (required "modifiers" (list Modifier.decoder))).and (required "getter" Expr.decoder))

/-- The initializer of a constructor. -/
def ConstructorInitializer.decoder : Decoder ConstructorInitializer :=
  adjacentlyTagged "ConstructorInitializer" "kind" "args"
    [("base", fun st s => (list Expr.decoder st s).map .base)]

/-- A constructor. -/
def ConstructorDecl.decoder : Decoder ConstructorDecl :=
  record (.structure "ConstructorDecl")
    (((((((pure ConstructorDecl.mk).and (required "class_name" string)).and
      (required "modifiers" (list Modifier.decoder))).and
      (required "parameters" (list Parameter.decoder))).and
      (defaulted "initializer" none (nullable ConstructorInitializer.decoder))).and
      (required "body" (list Stmt.decoder))).and
      (defaulted "attributes" [] (list Attribute.decoder)))

/-- A method. Its body may be absent from an object, but not from an array. -/
def MethodDecl.decoder : Decoder MethodDecl :=
  record (.structure "MethodDecl")
    (((((((pure MethodDecl.mk).and (required "name" string)).and
      (required "return_type" typeRef)).and
      (required "modifiers" (list Modifier.decoder))).and
      (required "parameters" (list Parameter.decoder))).and
      (field "body" (.allowedByName none) (nullable (list Stmt.decoder)))).and
      (defaulted "attributes" [] (list Attribute.decoder)))

/-! ## Classes -/

/-- A class, by the decoder of its members. -/
def ClassDecl.decoderWith (member : Decoder Member) : Decoder ClassDecl :=
  record (.structure "ClassDecl")
    (((((((pure ClassDecl.mk).and (required "name" string)).and
      (required "modifiers" (list Modifier.decoder))).and
      (defaulted "type_parameters" [] (list string))).and
      (defaulted "base_types" [] (list typeRef))).and
      (defaulted "attributes" [] (list Attribute.decoder))).and
      (required "members" (list member)))

/-- The same decoder with its values turned into members. -/
def Decoder.asMember {α : Type} (make : α → Member) (d : Decoder α) : Decoder Member :=
  fun st s => (d st s).map make

/-- A member, from a source of a bounded height. -/
def Member.decoderUpTo : Nat → Decoder Member
  | 0 => tooDeep
  | depth + 1 =>
    internallyTagged "Member" "member"
      [("field", asMember .field FieldDecl.decoder),
        ("property", asMember .property PropertyDecl.decoder),
        ("constructor", asMember .constructor ConstructorDecl.decoder),
        ("method", asMember .method MethodDecl.decoder),
        ("class", asMember .nestedClass (ClassDecl.decoderWith (Member.decoderUpTo depth)))]

/-- A member. -/
def Member.decoder : Decoder Member := bounded Member.decoderUpTo

/-- A class. -/
def ClassDecl.decoder : Decoder ClassDecl := ClassDecl.decoderWith Member.decoder

/-- A namespace. -/
def NamespaceDecl.decoder : Decoder NamespaceDecl :=
  record (.structure "NamespaceDecl")
    (((pure NamespaceDecl.mk).and (required "name" string)).and
      (required "classes" (list ClassDecl.decoder)))

end ControllerCompanion
