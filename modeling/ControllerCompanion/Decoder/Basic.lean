import ControllerCompanion.Decoder.Problem
import ControllerCompanion.Json.Reader

set_option autoImplicit false

/-! # Decoders

A decoder takes a value of one kind from a JSON source, and complains about the first problem that
a reader of the source would meet. -/

namespace ControllerCompanion

open Json Decoder

/-- Where a source stands when it is decoded: in a text that is read as it goes, in a value that
    is there as a whole, or in one that was set aside until the tag beside it was known. Some
    problems are told differently. -/
inductive Standing where
  | inText
  | whole
  | setAside
  deriving Repr, DecidableEq

/-- A decoder of values of a type. -/
abbrev Decoder (α : Type) := Standing → Source → Except Problem α

namespace Decoder

/-! ## Complaints -/

/-- Refuses a source for a mismatch. -/
def refuse {α : Type} (m : Mismatch) : Except Problem α := .error (.mismatch m)

/-- Refuses a source that is of another kind than wanted. -/
def wrongKind {α : Type} (s : Source) (wanted : Wanted) : Except Problem α :=
  match s.kind with
  | .ok k => refuse (.invalidType k wanted)
  | .error f => .error (.fault f)

/-! ## Leaves -/

/-- A text, for what is wanted by it. -/
def text (wanted : Wanted) : Decoder String
  | _, .string s => .ok s
  | _, s => wrongKind s wanted

/-- A text that stands for itself. -/
def string : Decoder String := text .string

/-- The text of a path. -/
def path : Decoder String := text .path

/-- A truth value. -/
def bool : Decoder Bool
  | _, .bool b => .ok b
  | _, s => wrongKind s .boolean

/-- A count of 64 bits. -/
def count : Decoder Nat
  | _, .number (.integer i) =>
    if 0 ≤ i then .ok i.toNat else refuse (.invalidValue (.integer i) .count)
  | _, s => wrongKind s .count

/-- A value, or `null` for none. -/
def nullable {α : Type} (d : Decoder α) : Decoder (Option α)
  | _, .null => .ok none
  | st, s => (d st s).map some

/-- The same decoder with its values refined by a rule that may refuse them. -/
def refine {α β : Type} (d : Decoder α) (rule : α → Except Mismatch β) : Decoder β :=
  fun st s =>
    match d st s with
    | .error p => .error p
    | .ok a => (rule a).mapError .mismatch

/-- A type, by its text. -/
def typeRef : Decoder TypeRef :=
  refine string fun text => (TypeRef.parse text).mapError .invalidTypeRef

/-- A virtual path, by its text. -/
def virtualPath : Decoder VirtualPath :=
  refine string fun text => (VirtualPath.ofText text).mapError .invalidPath

/-! ## Lists -/

/-- Decodes the items of an array in order. -/
def items {α : Type} (d : Decoder α) (st : Standing) : List Source → Except Problem (List α)
  | [] => .ok []
  | s :: ss =>
    match d st s with
    | .error p => .error p
    | .ok a => (items d st ss).map (a :: ·)

/-- A list. -/
def list {α : Type} (d : Decoder α) : Decoder (List α)
  | st, .array ss ending _ =>
    match items d st ss, ending.fault? with
    | .error p, _ => .error p
    | .ok as, none => .ok as
    | .ok _, some f => .error (.fault f)
  | _, s => wrongKind s .sequence

/-! ## Choices -/

/-- The value of a variant, by its name. -/
def variant {α : Type} (known : List (String × α)) (name : String) : Except Problem α :=
  match known.lookup name with
  | some a => .ok a
  | none => refuse (.unknownVariant name (known.map Prod.fst))

/-- Accepts a value that carries nothing. -/
def unit : Decoder Unit
  | _, .null => .ok ()
  | .setAside, .object [] .closed _ => .ok ()
  | _, s => wrongKind s .unit

/-- What must follow the only member of an object. -/
def closes (more : List (String × Source)) (ending : Ending) : Except Problem Unit :=
  match more, ending with
  | [], .closed => .ok ()
  | [], .cut f => .error (.fault f)
  | _, _ => .error (.fault .malformed)

/-- One of several variants without content, by its name, or as an object with the name as its
    only key and `null` as its value. A text that begins as neither is malformed. -/
def choice {α : Type} (known : List (String × α)) : Decoder α
  | _, .string name => variant known name
  | .inText, .object ((name, content) :: more) ending _ => do
    let a ← variant known name
    unit .inText content
    closes more ending
    return a
  | .inText, .object [] ending _ => .error (.fault (ending.fault?.getD .malformed))
  | .inText, .broken none f _ => .error (.fault f)
  | .inText, .broken (some c) f _ => .error (.fault (if c = '"' then f else .malformed))
  | .inText, _ => .error (.fault .malformed)
  | st, .object [(name, content)] _ _ => do
    let a ← variant known name
    unit st content
    return a
  | _, .object .. => refuse (.invalidValue .map .singleKeyMap)
  | _, s => wrongKind s .stringOrMap

/-! ## Texts -/

/-- Decodes a whole text. Behind the value, only blanks may follow. -/
def ofText {α : Type} (d : Decoder α) (text : String) : Except Problem α :=
  let document := Document.ofText text
  match d .inText document.root, document.trailing with
  | .error p, _ => .error p
  | .ok a, none => .ok a
  | .ok _, some f => .error (.fault f)

/-- Decodes a value that is there as a whole. -/
def ofJson {α : Type} (d : Decoder α) (v : Json) : Except Problem α := d .whole v.source

end Decoder

end ControllerCompanion
