import ControllerCompanion.Json.Value
import ControllerCompanion.Text.Quoted

set_option autoImplicit false

/-! # Printing JSON

A document is printed over many lines: one item or member a line, two spaces deeper than what
holds it; an empty array or object is a pair of brackets. -/

namespace ControllerCompanion.Json

/-- A character inside a printed string. Quotes, backslashes and control characters below the
    space are escaped; all else stands as it is. -/
def escaped (c : Char) : List Char :=
  if c = '"' then ['\\', '"']
  else if c = '\\' then ['\\', '\\']
  else if c = '\n' then ['\\', 'n']
  else if c = '\r' then ['\\', 'r']
  else if c = '\t' then ['\\', 't']
  else if c = '\x08' then ['\\', 'b']
  else if c = '\x0c' then ['\\', 'f']
  else if c.toNat < 0x20 then
    ['\\', 'u', '0', '0', Nat.digitChar (c.toNat / 16), Nat.digitChar (c.toNat % 16)]
  else [c]

/-- A printed string. -/
def quote (s : String) : List Char := '"' :: s.toList.flatMap escaped ++ ['"']

/-- The start of a line at a depth. -/
def newline (depth : Nat) : List Char := '\n' :: List.replicate (2 * depth) ' '

mutual

/-- The characters of a value that stands at a depth. -/
def print (depth : Nat) : Json → List Char
  | .null => "null".toList
  | .bool true => "true".toList
  | .bool false => "false".toList
  | .number n => Nat.toDigits 10 n
  | .string s => quote s
  | .array [] => ['[', ']']
  | .array (v :: vs) =>
    '[' :: newline (depth + 1) ++ print (depth + 1) v ++ printItems (depth + 1) vs
      ++ newline depth ++ [']']
  | .object [] => ['\x7b', '\x7d']
  | .object ((key, v) :: ms) =>
    '\x7b' :: newline (depth + 1) ++ quote key ++ [':', ' '] ++ print (depth + 1) v
      ++ printMembers (depth + 1) ms ++ newline depth ++ ['\x7d']

/-- The items of an array behind the first. -/
def printItems (depth : Nat) : List Json → List Char
  | [] => []
  | v :: vs => ',' :: newline depth ++ print depth v ++ printItems depth vs

/-- The members of an object behind the first. -/
def printMembers (depth : Nat) : List (String × Json) → List Char
  | [] => []
  | (key, v) :: ms =>
    ',' :: newline depth ++ quote key ++ [':', ' '] ++ print depth v ++ printMembers depth ms

end

/-- The text of a document. -/
def pretty (v : Json) : String := String.ofList (v.print 0)

end ControllerCompanion.Json
