import ControllerCompanion.Controller.Codec
import ControllerCompanion.Identifier

set_option autoImplicit false

/-! # Models

A model is a list of controllers in which every name that becomes part of generated code is an
identifier, and no controller is declared twice in a namespace. -/

namespace ControllerCompanion

open Decoder Decoder.Record

namespace Model

/-! ## Checking -/

/-- Why a list of controllers is no model. -/
inductive Invalid where
  | duplicateController (name : String) (namespaceText : Option String)
  | identifier (cause : Identifier.Invalid)
  deriving Repr, DecidableEq

/-- The text of the complaint. -/
def Invalid.message : Invalid → String
  | .duplicateController name namespaceText =>
    "Invalid declaration model: controller '" ++ name
      ++ "' is declared more than once in namespace '" ++ namespaceText.getD "" ++ "'"
  | .identifier cause => "Syntax error: " ++ cause.message

/-- The names of a controller that must be identifiers, in the order they are checked. -/
def namesOf (c : Controller) : List String :=
  c.name :: c.typeParameters ++ c.methods.flatMap fun m => m.name :: m.parameters.map (·.name)

/-- Refuses the first name that is no identifier. -/
def checkNames : List String → Except Invalid Unit
  | [] => .ok ()
  | name :: names =>
    match Identifier.check name with
    | .error e => .error (.identifier e)
    | .ok () => checkNames names

/-- Refuses the first controller that is declared again or has a name that is no identifier.
    `seen` are the controllers before. -/
def checkFrom (seen : List (Option String × String)) : List Controller → Except Invalid Unit
  | [] => .ok ()
  | c :: cs =>
    if seen.contains (c.namespaceText, c.name) then
      .error (.duplicateController c.name c.namespaceText)
    else
      match checkNames (namesOf c) with
      | .error e => .error e
      | .ok () => checkFrom ((c.namespaceText, c.name) :: seen) cs

end Model

/-- A checked list of controllers. -/
structure Model where
  controllers : List Controller
  checked : Model.checkFrom [] controllers = .ok ()

namespace Model

/-- The model of a list of controllers. -/
def ofControllers (cs : List Controller) : Except Invalid Model :=
  match h : checkFrom [] cs with
  | .ok () => .ok ⟨cs, h⟩
  | .error e => .error e

/-! ## Reading -/

/-- The list of controllers of a document. -/
def controllersDecoder : Decoder (List Controller) :=
  record (.structure "JsonDeclarationModel")
    ((pure id).and (defaulted "controllers" [] (list Controller.decoder)))

/-- Why a document holds no model. -/
inductive Unreadable where
  | json (problem : Problem)
  | invalid (cause : Invalid)
  deriving Repr, DecidableEq

/-- The model of a document. -/
def ofText (text : String) : Except Unreadable Model :=
  match Decoder.ofText controllersDecoder text with
  | .error p => .error (.json p)
  | .ok cs => (ofControllers cs).mapError .invalid

end Model

end ControllerCompanion
