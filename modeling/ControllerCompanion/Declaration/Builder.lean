import ControllerCompanion.Declaration.Basic

set_option autoImplicit false

/-! # Building declarations

A class is built from an empty one by adding attributes, base types and members; each step adds
behind what is there. -/

namespace ControllerCompanion

/-! ## Attributes -/

namespace Attribute

/-- Marks code as written by a tool of a version. -/
def generatedCode (tool version : String) : Attribute :=
  ⟨"GeneratedCode", [.stringLiteral tool, .stringLiteral version]⟩

/-- Keeps a debugger out of generated code. -/
def debuggerNonUserCode : Attribute := ⟨"DebuggerNonUserCode", []⟩

/-- Says that a method of a controller is no action. -/
def nonAction : Attribute := ⟨"NonAction", []⟩

end Attribute

/-! ## Classes and namespaces -/

/-- A namespace without classes. -/
def NamespaceDecl.empty (name : String) : NamespaceDecl := ⟨name, []⟩

/-- Adds a class. -/
def NamespaceDecl.addClass (n : NamespaceDecl) (c : ClassDecl) : NamespaceDecl :=
  { n with classes := n.classes ++ [c] }

namespace ClassDecl

/-- A class without members. -/
def empty (name : String) (typeParameters : List String) (modifiers : List Modifier) :
    ClassDecl :=
  ⟨name, modifiers, typeParameters, [], [], []⟩

/-- Adds attributes. -/
def addAttributes (c : ClassDecl) (attributes : List Attribute) : ClassDecl :=
  { c with attributes := c.attributes ++ attributes }

/-- Adds base types. -/
def addBaseTypes (c : ClassDecl) (types : List TypeRef) : ClassDecl :=
  { c with baseTypes := c.baseTypes ++ types }

/-- Adds members. -/
def addMembers (c : ClassDecl) (members : List Member) : ClassDecl :=
  { c with members := c.members ++ members }

/-- Adds a member. -/
def addMember (c : ClassDecl) (m : Member) : ClassDecl := c.addMembers [m]

/-- Adds a method. -/
def addMethod (c : ClassDecl) (m : MethodDecl) : ClassDecl := c.addMember (.method m)

/-- Adds methods. -/
def addMethods (c : ClassDecl) (ms : List MethodDecl) : ClassDecl :=
  c.addMembers (ms.map .method)

/-- Adds a nested class. -/
def addClass (c nested : ClassDecl) : ClassDecl := c.addMember (.nestedClass nested)

/-- Adds a constructor with an empty body. -/
def addConstructor (c : ClassDecl) (parameters : List Parameter)
    (initializer : Option ConstructorInitializer) (modifiers : List Modifier)
    (attributes : List Attribute) : ClassDecl :=
  c.addMember (.constructor ⟨c.name, modifiers, parameters, initializer, [], attributes⟩)

/-- Adds a constructor without parameters. -/
def addDefaultConstructor (c : ClassDecl) (modifiers : List Modifier)
    (attributes : List Attribute) : ClassDecl :=
  c.addConstructor [] none modifiers attributes

/-- The parameter of a constructor that only takes a marker. -/
def markerParameter : String := "d"

/-- Adds a constructor that takes a marker and does nothing. It is an overload that a subclass can
    chain to without running the real constructor. -/
def addMarkerConstructor (c : ClassDecl) (marker : TypeRef) (modifiers : List Modifier)
    (attributes : List Attribute) : ClassDecl :=
  c.addConstructor [⟨markerParameter, marker⟩] none modifiers attributes

/-- Adds a constructor without parameters that hands a marker to the base class. -/
def addBaseMarkerConstructor (c : ClassDecl) (marker : Expr) (modifiers : List Modifier)
    (attributes : List Attribute) : ClassDecl :=
  c.addConstructor [] (some (.base [marker])) modifiers attributes

/-- Adds a field. -/
def addField (c : ClassDecl) (name : String) (type : TypeRef) (modifiers : List Modifier)
    (initializer : Option Expr) : ClassDecl :=
  c.addMember (.field ⟨name, type, modifiers, initializer⟩)

/-- Adds a field that holds a text. -/
def addStringField (c : ClassDecl) (name value : String) (modifiers : List Modifier) :
    ClassDecl :=
  c.addField name (.named "string") modifiers (some (.stringLiteral value))

/-- Adds a field that holds a new object of its type. -/
def addInstanceField (c : ClassDecl) (name : String) (type : TypeRef)
    (modifiers : List Modifier) : ClassDecl :=
  c.addField name type modifiers (some (.objectCreation type []))

/-- Adds a property. -/
def addProperty (c : ClassDecl) (name : String) (type : TypeRef) (getter : Expr)
    (modifiers : List Modifier) : ClassDecl :=
  c.addMember (.property ⟨name, type, modifiers, getter⟩)

end ClassDecl

end ControllerCompanion
