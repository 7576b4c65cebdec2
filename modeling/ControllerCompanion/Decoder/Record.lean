import ControllerCompanion.Decoder.Basic

set_option autoImplicit false

/-! # Records

A record is written as an object, with its fields by name in any order, or as an array, with its
fields in the order they are declared. Each field is decoded by itself, from the place where it
stands; if several places are at fault, the earliest one is told. So what a record decodes to does
not depend on the order of its members, nor on members it does not know. -/

namespace ControllerCompanion.Decoder

open Json

/-! ## Places -/

/-- A problem, and the position in its container where it is met. -/
structure Trouble where
  position : Nat
  problem : Problem
  deriving Repr, DecidableEq

/-- The earlier of two troubles; the first one if they are met together. -/
def Trouble.earlier (a b : Trouble) : Trouble := if b.position < a.position then b else a

/-- Both results, or the earliest trouble. -/
def both {α β γ : Type} (f : α → β → γ) :
    Except Trouble α → Except Trouble β → Except Trouble γ
  | .ok a, .ok b => .ok (f a b)
  | .error e, .ok _ => .error e
  | .ok _, .error e => .error e
  | .error e, .error e' => .error (e.earlier e')

/-- What a container holds for a field: a value at a position; nothing, which is told as a problem
    at a position unless the field can do without (`named` says that the fields go by name); or
    nothing because a fault comes first. -/
inductive Slot where
  | given (position : Nat) (value : Source)
  | lacking (named : Bool) (trouble : Trouble)
  | ruined (trouble : Trouble)

/-! ## Fields -/

/-- What a field is when it is absent: it must not be; it may be absent where fields go by name,
    as with a field that can be `null`; or it may always be absent. -/
inductive Absence (α : Type) where
  | refused
  | allowedByName (value : α)
  | allowed (value : α)

/-- How a record is put together: the names of its fields, and its value out of the slots. A
    record that is a part of another one begins at the field `start`. -/
structure Record (α : Type) where
  names : List String
  read : (st : Standing) → (start : Nat) → (slot : Nat → String → Slot) → Except Trouble α

namespace Record

/-- A record without fields. -/
def pure {α : Type} (a : α) : Record α := ⟨[], fun _ _ _ => .ok a⟩

/-- The value of a field that has nothing in its slot. -/
def absent {α : Type} (absence : Absence α) (named : Bool) (trouble : Trouble) :
    Except Trouble α :=
  match absence, named with
  | .allowed a, _ => .ok a
  | .allowedByName a, true => .ok a
  | _, _ => .error trouble

/-- A record of one field. -/
def field {α : Type} (name : String) (absence : Absence α) (d : Decoder α) : Record α where
  names := [name]
  read st start slot :=
    match slot start name with
    | .given position s => (d st s).mapError fun problem => ⟨position, problem⟩
    | .lacking named trouble => absent absence named trouble
    | .ruined trouble => .error trouble

/-- A field that must be present. -/
def required {α : Type} (name : String) (d : Decoder α) : Record α := field name .refused d

/-- A field with a default value. -/
def defaulted {α : Type} (name : String) (default : α) (d : Decoder α) : Record α :=
  field name (.allowed default) d

/-- The fields of one record and then those of another one. -/
def and {α β : Type} (f : Record (α → β)) (a : Record α) : Record β where
  names := f.names ++ a.names
  read st start slot :=
    both (fun f a => f a) (f.read st start slot) (a.read st (start + f.names.length) slot)

end Record

/-! ## Objects -/

/-- The member with a key, and its position. -/
def lookup (name : String) (position : Nat) : List (String × Source) → Option (Nat × Source)
  | [] => none
  | (key, s) :: ms => if key = name then some (position, s) else lookup name (position + 1) ms

/-- The slots of an object. A missing field is told behind its end. -/
def namedSlot (members : List (String × Source)) (_ : Nat) (name : String) : Slot :=
  match lookup name 0 members with
  | some (position, s) => .given position s
  | none => .lacking true ⟨members.length + 1, .mismatch (.missingField name)⟩

/-- What is wrong with the members of an object apart from the values of its fields: a field that
    is there again, a fault in a member that is skipped, or one at the end. -/
def strayTrouble (names seen : List String) (position : Nat) (ending : Ending) :
    List (String × Source) → Except Trouble Unit
  | [] => match ending.fault? with
    | none => .ok ()
    | some f => .error ⟨position, .fault f⟩
  | (key, s) :: ms =>
    if names.contains key then
      if seen.contains key then .error ⟨position, .mismatch (.duplicateField key)⟩
      else strayTrouble names (key :: seen) (position + 1) ending ms
    else match s.skipFault? with
      | none => strayTrouble names seen (position + 1) ending ms
      | some f => .error ⟨position, .fault f⟩

/-! ## Arrays -/

/-- The slots of an array. A fault at its end comes before a field that is absent. -/
def listedSlot (name : RecordName) (size : Nat) (ss : List Source) (ending : Ending)
    (index : Nat) (_ : String) : Slot :=
  match ss[index]?, ending.fault? with
  | some s, _ => .given index s
  | none, some f => .ruined ⟨index, .fault f⟩
  | none, none =>
    .lacking false ⟨index, .mismatch (.invalidLength index (.recordOf name size))⟩

/-- What must follow the fields of a record that is written as an array. -/
def listEnd (st : Standing) (size length : Nat) (ending : Ending) : Except Problem Unit :=
  if size < length then
    match st with
    | .inText => .error (.fault .malformed)
    | .whole => refuse (.invalidLength length .fewerElements)
    | .setAside => refuse (.invalidLength length (.elements size))
  else match ending with
    | .closed => .ok ()
    | .cut f => .error (.fault f)
    | _ => .error (.fault .malformed)

/-! ## Decoding -/

/-- A record with a name. -/
def record {α : Type} (name : RecordName) (r : Record α) : Decoder α
  | st, .object members ending _ =>
    (both (fun a _ => a) (r.read st 0 (namedSlot members))
      (strayTrouble r.names [] 0 ending members)).mapError Trouble.problem
  | st, .array ss ending _ =>
    match r.read st 0 (listedSlot name r.names.length ss ending) with
    | .error e => .error e.problem
    | .ok a => (listEnd st r.names.length ss.length ending).map fun _ => a
  | _, s => wrongKind s (.record name)

end ControllerCompanion.Decoder
