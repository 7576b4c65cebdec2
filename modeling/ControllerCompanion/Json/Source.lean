import ControllerCompanion.Json.Double
import ControllerCompanion.Json.Value

set_option autoImplicit false

/-! # JSON as it is met by a reader

A text that is meant to be JSON is read from left to right, and whoever decodes it complains about
the first thing that is wrong. A source is what such a text holds, with its faults left in their
places: a decoder that walks the source in order meets each fault exactly when a reader of the
text would. A value that is skipped is held to less than one that is read, so a source says at its
containers and faults what skipping makes of them. -/

namespace ControllerCompanion.Json

/-- What is wrong with a text: it is not JSON, or it ends too early. -/
inductive Fault where
  | malformed
  | truncated
  deriving Repr, DecidableEq

/-- A number of a text: an integer of 64 bits, signed or not, or a double. -/
inductive Number where
  | integer (value : Int)
  | double (value : Double)
  deriving Repr, DecidableEq

/-- The kind that a value is seen to be of, with its content if it is a leaf. -/
inductive Kind where
  | null
  | bool (value : Bool)
  | integer (value : Int)
  | double (value : Double)
  | string (value : String)
  | sequence
  | map
  deriving Repr, DecidableEq

/-- What follows the last item of an array or object: its closing bracket, a fault, or a comma
    and then a fault. -/
inductive Ending where
  | closed
  | cut (fault : Fault)
  | dangling (fault : Fault)
  deriving Repr, DecidableEq

/-- The fault of an ending, if it has one. -/
def Ending.fault? : Ending → Option Fault
  | .closed => none
  | .cut f => some f
  | .dangling f => some f

/-- What a reader meets. -/
inductive Source where
  | null
  | bool (value : Bool)
  | number (value : Number)
  | string (value : String)
  /-- An array; `skipping` is the fault that a reader meets who skips it. -/
  | array (items : List Source) (ending : Ending) (skipping : Option Fault)
  /-- An object with its members in order, also those with one key. -/
  | object (members : List (String × Source)) (ending : Ending) (skipping : Option Fault)
  /-- No value: reading it meets `fault`. `first` is the character it begins with, if any. -/
  | broken (first : Option Char) (fault : Fault) (skipping : Option Fault)
  deriving Repr, Inhabited

namespace Source

/-- The kind of a source. What cannot be read is told by its fault. -/
def kind : Source → Except Fault Kind
  | .null => .ok .null
  | .bool b => .ok (.bool b)
  | .number (.integer i) => .ok (.integer i)
  | .number (.double d) => .ok (.double d)
  | .string s => .ok (.string s)
  | .array .. => .ok .sequence
  | .object .. => .ok .map
  | .broken _ f _ => .error f

/-- The fault that a reader meets who skips a value. -/
def skipFault? : Source → Option Fault
  | .array _ _ skipping => skipping
  | .object _ _ skipping => skipping
  | .broken _ _ skipping => skipping
  | _ => none

mutual

/-- The first fault that a reader meets who reads a value to its end. -/
def readFault? : Source → Option Fault
  | .array items ending _ => (readFaultItems? items).or ending.fault?
  | .object members ending _ => (readFaultMembers? members).or ending.fault?
  | .broken _ fault _ => some fault
  | _ => none

/-- The first fault in a list of items. -/
def readFaultItems? : List Source → Option Fault
  | [] => none
  | v :: vs => (readFault? v).or (readFaultItems? vs)

/-- The first fault in a list of members. -/
def readFaultMembers? : List (String × Source) → Option Fault
  | [] => none
  | (_, v) :: ms => (readFault? v).or (readFaultMembers? ms)

end

mutual

/-- How many containers stand in one another in a value, the value itself counted. -/
def height : Source → Nat
  | .array items _ _ => heightItems items + 1
  | .object members _ _ => heightMembers members + 1
  | _ => 1

/-- The height of the highest item. -/
def heightItems : List Source → Nat
  | [] => 0
  | v :: vs => max (height v) (heightItems vs)

/-- The height of the highest member. -/
def heightMembers : List (String × Source) → Nat
  | [] => 0
  | (_, v) :: ms => max (height v) (heightMembers ms)

end

end Source

mutual

/-- What a reader meets of a value that is written in full. -/
def source : Json → Source
  | .null => .null
  | .bool b => .bool b
  | .number n => .number (.integer n)
  | .string s => .string s
  | .array items => .array (sourceItems items) .closed none
  | .object members => .object (sourceMembers members) .closed none

/-- The sources of the items of an array. -/
def sourceItems : List Json → List Source
  | [] => []
  | v :: vs => source v :: sourceItems vs

/-- The sources of the members of an object. -/
def sourceMembers : List (String × Json) → List (String × Source)
  | [] => []
  | (key, v) :: ms => (key, source v) :: sourceMembers ms

end

end ControllerCompanion.Json
