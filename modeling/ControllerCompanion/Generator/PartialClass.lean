import ControllerCompanion.Generator.Basic

set_option autoImplicit false

/-! # Partial classes

The partial class that is generated beside a controller: constructors, redirects, a method for
each action that has none without parameters, and the names of actions and views. -/

namespace ControllerCompanion.Generator

/-! ## Names -/

/-- The class with the names of the actions. -/
def actionNamesClassName : String := "ActionNamesClass"

/-- The class with the names of the actions as constants. -/
def actionConstantsClassName : String := "ActionNameConstants"

/-- The class with the paths of the views. -/
def viewsClassName : String := "ViewsClass"

/-! ## Redirects -/

/-- A redirect without parameters and body. -/
def redirectMethod (g : Generator) (name : String) : MethodDecl :=
  { name, returnType := g.redirectResult, modifiers := [.isProtected], parameters := [],
    body := none, attributes := g.attributes }

/-- The two redirects of a name, by way of a method that redirects to a route: one takes a result,
    and one takes a result that comes later. -/
def redirectPair (g : Generator) (name toRoute : String) : List MethodDecl :=
  [{ g.redirectMethod name with
      parameters := [⟨"result", g.actionResult⟩]
      body := some
        [.declare "callInfo"
            (.invocation (.memberAccess (.ident "result") "GetR4MvcResult") []),
          .result (.invocation (.ident toRoute)
            [.memberAccess (.ident "callInfo") "RouteValueDictionary"])] },
    { g.redirectMethod name with
      parameters := [⟨"taskResult", ⟨"Task", [g.actionResult]⟩⟩]
      body := some
        [.result (.invocation (.ident name) [.memberAccess (.ident "taskResult") "Result"])] }]

/-- All redirects. -/
def redirectMethods (g : Generator) : List MethodDecl :=
  g.redirectPair "RedirectToAction" "RedirectToRoute"
    ++ g.redirectPair "RedirectToActionPermanent" "RedirectToRoutePermanent"

/-! ## Actions -/

/-- Whether an action of the name has no parameters. -/
def hasParameterless (c : Controller) (action : String) : Bool :=
  c.actions.any fun m => m.name == action && m.parameters.isEmpty

/-- The method without parameters of an action: it gives the call info. -/
def actionStub (g : Generator) (action : String) : MethodDecl :=
  { name := action, returnType := g.actionResult, modifiers := [.isPublic, .isVirtual],
    parameters := [], body := some [.result (g.callInfoExpr action)],
    attributes := .nonAction :: g.attributes }

/-- A stub for each name of an action, unless an action of the name has no parameters. -/
def actionStubs (g : Generator) (c : Controller) : List MethodDecl :=
  (c.actionNames.filter fun action => !hasParameterless c action).map g.actionStub

/-- A class with a text for each name. -/
def namesClass (className : String) (names : List String) (modifiers : List Modifier) :
    ClassDecl :=
  names.foldl (fun c name => c.addStringField name name modifiers)
    (.empty className [] [.isPublic])

/-- The class with the names of the actions. -/
def actionNamesClass (c : Controller) : ClassDecl :=
  namesClass actionNamesClassName c.actionNames [.isPublic, .isReadonly]

/-- The class with the names of the actions as constants. -/
def actionConstantsClass (c : Controller) : ClassDecl :=
  namesClass actionConstantsClassName c.actionNames [.isPublic, .isConst]

/-! ## The class -/

/-- The slot of a controller in the class that holds them all, by way of its area if it has
    one. -/
def actionsSlot (g : Generator) (area name : String) : Expr :=
  let root := Expr.ident g.config.helpersClass
  let root := if area = "" then root else root.memberAccess area
  root.memberAccess name

/-- The class with its constructors. One without parameters is only made if the controller has no
    public constructor. -/
def partialConstructors (g : Generator) (c : Controller) : ClassDecl :=
  let start := ClassDecl.empty c.name c.typeParameters [.isPublic, .isPartial]
  let start :=
    if c.hasPublicConstructor then start else start.addDefaultConstructor [.isPublic] g.attributes
  start.addMarkerConstructor g.marker [.isProtected] g.attributes

/-- The partial class of a controller in an area; `views` is the class of its views. -/
def partialClass (g : Generator) (c : Controller) (area : String) (views : ClassDecl) :
    ClassDecl :=
  let name := controllerName c.name
  let actionNames := TypeRef.named actionNamesClassName
  let viewsType := TypeRef.named viewsClassName
  (g.partialConstructors c)
    |>.addMethods g.redirectMethods
    |>.addMethods (g.actionStubs c)
    |>.addProperty "Actions" c.selfType (g.actionsSlot area name) [.isPublic]
    |>.addStringField "Area" area [.isPublic, .isReadonly]
    |>.addStringField "Name" name [.isPublic, .isReadonly]
    |>.addStringField "NameConst" name [.isPublic, .isConst]
    |>.addInstanceField "s_actions" actionNames [.isStatic, .isReadonly]
    |>.addProperty "ActionNames" actionNames (.ident "s_actions") [.isPublic]
    |>.addClass (actionNamesClass c)
    |>.addClass (actionConstantsClass c)
    |>.addInstanceField "s_views" viewsType [.isStatic, .isReadonly]
    |>.addProperty "Views" viewsType (.ident "s_views") [.isPublic]
    |>.addClass views

end ControllerCompanion.Generator
