import ControllerCompanion.Generator.Basic
import ControllerCompanion.TypeRef.Wrapper

set_option autoImplicit false

/-! # Override classes

The class that is generated below a controller. It overrides each action: the override constructs
the call info, hands it to a hook with the arguments, and returns it. -/

namespace ControllerCompanion.Generator

/-! ## The local variable -/

/-- The name `name`, with as many underscores behind it as it takes to differ from all names that
    are taken. -/
def freshName (name : String) (taken : List String) : String :=
  if name ∈ taken then freshName (name ++ "_") (taken.erase name) else name
  termination_by taken.length
  decreasing_by
    rename_i h
    have := List.length_pos_of_mem h
    simp only [List.length_erase_of_mem h]
    omega

/-- The name of the local variable for the call info. -/
def callInfoLocal (parameters : List Parameter) : String :=
  freshName "callInfo" (parameters.map (·.name))

/-! ## Hooks and overrides -/

/-- The parameters of an action. -/
def parametersOf (m : Controller.Method) : List Parameter :=
  m.parameters.map fun p => ⟨p.name, p.type⟩

/-- The name of the hook of an action. -/
def hookName (g : Generator) (m : Controller.Method) : String :=
  m.name ++ g.config.overrideMethodSuffix

/-- The hook of an action: it takes the call info and the arguments, and has no body. -/
def hook (g : Generator) (m : Controller.Method) : MethodDecl :=
  { name := g.hookName m, returnType := .named "void", modifiers := [.isPartial],
    parameters := ⟨callInfoLocal (parametersOf m), g.callInfo⟩ :: parametersOf m,
    body := none, attributes := [.nonAction] }

/-- What an override returns: the call info, or a wrapper of it if the action returns one. -/
def overrideResult (g : Generator) (m : Controller.Method) : Expr :=
  let callInfo := Expr.ident (callInfoLocal (parametersOf m))
  match m.returnType.unwrapSingle g.config.asyncWrappers with
  | some inner =>
    .invocation (.memberAccess (.path m.returnType.name) "FromResult") [.asType callInfo inner]
  | none => callInfo

/-- The override of an action. -/
def overrideMethod (g : Generator) (m : Controller.Method) : MethodDecl :=
  let callInfo := callInfoLocal (parametersOf m)
  { name := m.name, returnType := m.returnType, modifiers := [.isPublic, .isOverride],
    parameters := parametersOf m,
    body := some
      [.declare callInfo (g.callInfoExpr m.name),
        .expression (.invocation (.ident (g.hookName m))
          (.ident callInfo :: (parametersOf m).map fun p => .ident p.name)),
        .result (g.overrideResult m)],
    attributes := [.nonAction] }

/-- The hook and the override of an action. -/
def overridePair (g : Generator) (m : Controller.Method) : List MethodDecl :=
  [g.hook m, g.overrideMethod m]

/-! ## The class -/

/-- A controller whose namespace is not known. -/
structure Unresolved where
  controller : String
  deriving Repr, DecidableEq

/-- The text of the complaint. -/
def Unresolved.message (e : Unresolved) : String :=
  "Cannot resolve the enclosing namespace of controller '" ++ e.controller ++ "'"

/-- The namespace of a controller, which must be known. -/
def resolve (c : Controller) : Except Unresolved String :=
  match c.resolvedNamespace with
  | some ns => .ok ns
  | none => .error ⟨c.name⟩

/-- The override class of a controller in a namespace. -/
def overrideClassIn (g : Generator) (c : Controller) (namespaceText : String) : ClassDecl :=
  let base : TypeRef := ⟨namespaceText ++ "." ++ c.name, c.typeParameters.map .named⟩
  (ClassDecl.empty (g.config.overrideClassPrefix ++ c.name) c.typeParameters
      [.isPublic, .isPartial])
    |>.addBaseTypes [base]
    |>.addAttributes g.attributes
    |>.addBaseMarkerConstructor (.path g.config.markerInstance) [.isPublic] []
    |>.addMethods (c.actions.flatMap g.overridePair)

/-- The override class of a controller. Its base type is qualified by the namespace, which must be
    known. -/
def overrideClass (g : Generator) (c : Controller) : Except Unresolved ClassDecl :=
  (resolve c).map (g.overrideClassIn c)

end ControllerCompanion.Generator
