import ControllerCompanion.Declaration.Expr

set_option autoImplicit false

/-! # Declarations

The tree of generated declarations: a namespace holds classes, and a class holds fields,
properties, constructors, methods and nested classes. Everything keeps the order it was added
in. -/

namespace ControllerCompanion

/-- A modifier of a declaration. -/
inductive Modifier where
  | isPublic
  | isProtected
  | isStatic
  | isReadonly
  | isConst
  | isPartial
  | isVirtual
  | isOverride
  deriving Repr, DecidableEq, Inhabited

/-- An attribute of a class or member. -/
structure Attribute where
  name : String
  args : List Expr
  deriving Repr, Inhabited

/-- A parameter of a method or constructor. -/
structure Parameter where
  name : String
  type : TypeRef
  deriving Repr, Inhabited, DecidableEq

/-- A field. -/
structure FieldDecl where
  name : String
  type : TypeRef
  modifiers : List Modifier
  initializer : Option Expr
  deriving Repr, Inhabited

/-- A property that can only be read. -/
structure PropertyDecl where
  name : String
  type : TypeRef
  modifiers : List Modifier
  getter : Expr
  deriving Repr, Inhabited

/-- What a constructor hands on to another one. -/
inductive ConstructorInitializer where
  /-- Calls a constructor of the base class. -/
  | base (args : List Expr)
  deriving Repr, Inhabited

/-- A constructor. -/
structure ConstructorDecl where
  className : String
  modifiers : List Modifier
  parameters : List Parameter
  initializer : Option ConstructorInitializer
  body : List Stmt
  attributes : List Attribute
  deriving Repr, Inhabited

/-- A method. One without a body is only declared. -/
structure MethodDecl where
  name : String
  returnType : TypeRef
  modifiers : List Modifier
  parameters : List Parameter
  body : Option (List Stmt)
  attributes : List Attribute
  deriving Repr, Inhabited

mutual

/-- A class. -/
structure ClassDecl where
  name : String
  modifiers : List Modifier
  typeParameters : List String
  baseTypes : List TypeRef
  attributes : List Attribute
  members : List Member

/-- A member of a class. -/
inductive Member where
  | field (decl : FieldDecl)
  | property (decl : PropertyDecl)
  | constructor (decl : ConstructorDecl)
  | method (decl : MethodDecl)
  | nestedClass (decl : ClassDecl)

end

instance : Inhabited ClassDecl := ⟨⟨"", [], [], [], [], []⟩⟩

instance : Inhabited Member := ⟨.nestedClass default⟩

/-- A namespace. -/
structure NamespaceDecl where
  name : String
  classes : List ClassDecl
  deriving Inhabited

/-! ## Looking things up -/

/-- The declared name of a member; a constructor goes by the name of its class. -/
def Member.name : Member → String
  | .field f => f.name
  | .property p => p.name
  | .constructor c => c.className
  | .method m => m.name
  | .nestedClass c => c.name

/-- Whether the method has a modifier. -/
def MethodDecl.hasModifier (m : MethodDecl) (modifier : Modifier) : Bool :=
  m.modifiers.contains modifier

/-- Whether the method has an attribute of a name. -/
def MethodDecl.hasAttribute (m : MethodDecl) (name : String) : Bool :=
  m.attributes.any (·.name == name)

namespace ClassDecl

/-- Whether the class has a modifier. -/
def hasModifier (c : ClassDecl) (modifier : Modifier) : Bool := c.modifiers.contains modifier

/-- Whether the class has an attribute of a name. -/
def hasAttribute (c : ClassDecl) (name : String) : Bool := c.attributes.any (·.name == name)

/-- The names of the members, in order. -/
def memberNames (c : ClassDecl) : List String := c.members.map Member.name

/-- Whether a member has the name. -/
def declares (c : ClassDecl) (name : String) : Bool := c.memberNames.contains name

/-- The fields. -/
def fields (c : ClassDecl) : List FieldDecl :=
  c.members.filterMap fun | .field f => some f | _ => none

/-- The properties. -/
def properties (c : ClassDecl) : List PropertyDecl :=
  c.members.filterMap fun | .property p => some p | _ => none

/-- The constructors. -/
def constructors (c : ClassDecl) : List ConstructorDecl :=
  c.members.filterMap fun | .constructor k => some k | _ => none

/-- The methods. -/
def methods (c : ClassDecl) : List MethodDecl :=
  c.members.filterMap fun | .method m => some m | _ => none

/-- The nested classes. -/
def nestedClasses (c : ClassDecl) : List ClassDecl :=
  c.members.filterMap fun | .nestedClass d => some d | _ => none

/-- The first field of a name. -/
def field? (c : ClassDecl) (name : String) : Option FieldDecl := c.fields.find? (·.name == name)

/-- The first property of a name. -/
def property? (c : ClassDecl) (name : String) : Option PropertyDecl :=
  c.properties.find? (·.name == name)

/-- The first nested class of a name. -/
def nestedClass? (c : ClassDecl) (name : String) : Option ClassDecl :=
  c.nestedClasses.find? (·.name == name)

/-- The methods of a name. -/
def methodsNamed (c : ClassDecl) (name : String) : List MethodDecl :=
  c.methods.filter (·.name == name)

end ClassDecl

/-- The first class of a name. -/
def NamespaceDecl.class? (n : NamespaceDecl) (name : String) : Option ClassDecl :=
  n.classes.find? (·.name == name)

end ControllerCompanion
