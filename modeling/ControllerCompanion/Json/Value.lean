set_option autoImplicit false

/-! # JSON values

The values that documents are written as. The members of an object keep the order they are
written in, and the only numbers are counts. -/

namespace ControllerCompanion

/-- A JSON value to be written. -/
inductive Json where
  | null
  | bool (value : Bool)
  | number (value : Nat)
  | string (value : String)
  | array (items : List Json)
  | object (members : List (String × Json))
  deriving Repr, Inhabited

namespace Json

/-- An array of texts. -/
def strings (texts : List String) : Json := .array (texts.map .string)

/-- An optional value, with `null` for none. -/
def nullable {α : Type} (encode : α → Json) : Option α → Json
  | none => .null
  | some a => encode a

/-- A member that is left out when there is no value for it. -/
def memberIfSome {α : Type} (key : String) (encode : α → Json) :
    Option α → List (String × Json)
  | none => []
  | some a => [(key, encode a)]

/-- A member with a list, left out when the list is empty. -/
def memberIfAny {α : Type} (key : String) (encode : α → Json) : List α → List (String × Json)
  | [] => []
  | items => [(key, .array (items.map encode))]

end Json

end ControllerCompanion
