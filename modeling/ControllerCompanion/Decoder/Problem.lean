import ControllerCompanion.Json.Source
import ControllerCompanion.Text.Quoted
import ControllerCompanion.TypeRef.Reader
import ControllerCompanion.View.VirtualPath

set_option autoImplicit false

/-! # What can be wrong with a document

A document is refused because its text is no JSON, or because its values do not have the shape
that is wanted. -/

namespace ControllerCompanion

/-- The text of a kind. -/
def Json.Kind.message : Json.Kind → String
  | .null => "null"
  | .bool true => "boolean " ++ Text.ticked "true"
  | .bool false => "boolean " ++ Text.ticked "false"
  | .integer i => "integer " ++ Text.ticked (Int.repr i)
  | .double d => "floating point " ++ Text.ticked d.text
  | .string s => "string " ++ Text.quoted s
  | .sequence => "sequence"
  | .map => "map"

namespace Decoder

open Json Text

/-! ## What was met and what was wanted -/

/-- The name of a record: a structure, or one variant of an enumeration. -/
inductive RecordName where
  | structure (name : String)
  | variant (enumeration name : String)
  deriving Repr, DecidableEq

/-- What was wanted. -/
inductive Wanted where
  | string
  | path
  | boolean
  | count
  | sequence
  | unit
  | record (name : RecordName)
  | recordOf (name : RecordName) (fields : Nat)
  | internallyTagged (name : String)
  | adjacentlyTagged (name : String)
  | variantName
  | variantIndex (bound : Nat)
  | stringOrMap
  | singleKeyMap
  | fewerElements
  | elements (count : Nat)
  deriving Repr, DecidableEq

/-- Why well-formed JSON is not what was wanted. -/
inductive Mismatch where
  | missingField (name : String)
  | duplicateField (name : String)
  | unknownVariant (name : String) (known : List String)
  | invalidType (found : Kind) (wanted : Wanted)
  | invalidValue (found : Kind) (wanted : Wanted)
  | invalidLength (length : Nat) (wanted : Wanted)
  | invalidTypeRef (cause : TypeRef.Invalid)
  | invalidPath (cause : VirtualPath.Invalid)
  deriving Repr, DecidableEq

/-- Why a document is refused. -/
inductive Problem where
  | fault (fault : Fault)
  | mismatch (mismatch : Mismatch)
  deriving Repr, DecidableEq

/-! ## Texts -/

/-- The text of a record's name. -/
def RecordName.message : RecordName → String
  | .structure name => "struct " ++ name
  | .variant enumeration name => "struct variant " ++ enumeration ++ "::" ++ name

/-- A number of elements in words. -/
def elementCount (n : Nat) : String :=
  if n = 1 then "1 element" else Nat.repr n ++ " elements"

/-- The text of what was wanted. -/
def Wanted.message : Wanted → String
  | .string => "a string"
  | .path => "path string"
  | .boolean => "a boolean"
  | .count => "usize"
  | .sequence => "a sequence"
  | .unit => "unit"
  | .record name => name.message
  | .recordOf name n => name.message ++ " with " ++ elementCount n
  | .internallyTagged name => "internally tagged enum " ++ name
  | .adjacentlyTagged name => "adjacently tagged enum " ++ name
  | .variantName => "variant identifier"
  | .variantIndex bound => "variant index 0 <= i < " ++ Nat.repr bound
  | .stringOrMap => "string or map"
  | .singleKeyMap => "map with a single key"
  | .fewerElements => "fewer elements in array"
  | .elements n => elementCount n ++ " in sequence"

/-- The known names of an enumeration in words. -/
def oneOf (known : List String) : String :=
  match known with
  | [] => "there are no variants"
  | [a] => "expected " ++ ticked a
  | [a, b] => "expected " ++ ticked a ++ " or " ++ ticked b
  | names => "expected one of " ++ ", ".intercalate (names.map ticked)

/-- The text of a mismatch. -/
def Mismatch.message : Mismatch → String
  | .missingField name => "missing field " ++ ticked name
  | .duplicateField name => "duplicate field " ++ ticked name
  | .unknownVariant name known => "unknown variant " ++ ticked name ++ ", " ++ oneOf known
  | .invalidType found wanted =>
    "invalid type: " ++ found.message ++ ", expected " ++ wanted.message
  | .invalidValue found wanted =>
    "invalid value: " ++ found.message ++ ", expected " ++ wanted.message
  | .invalidLength length wanted =>
    "invalid length " ++ Nat.repr length ++ ", expected " ++ wanted.message
  | .invalidTypeRef cause => cause.message
  | .invalidPath cause => cause.message

end Decoder

end ControllerCompanion
