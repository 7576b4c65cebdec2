import ControllerCompanion.TypeRef.Basic

set_option autoImplicit false

/-! # Printing type references

A type is printed as its base name, its arguments in angle brackets, and its suffixes. The
suffixes begin at the first `[` or `?` of the name. -/

namespace ControllerCompanion.TypeRef

/-- A character that begins the suffixes of a name. -/
def startsSuffix (c : Char) : Bool := c == '[' || c == '?'

/-- The part of a name before its suffixes. -/
def baseOf (name : List Char) : List Char := name.takeWhile fun c => !startsSuffix c

/-- The suffixes of a name. -/
def suffixOf (name : List Char) : List Char := name.dropWhile fun c => !startsSuffix c

mutual

/-- The characters of a printed type. -/
def print : TypeRef → List Char
  | ⟨name, args⟩ => baseOf name.toList ++ printArguments args ++ suffixOf name.toList

/-- The characters of a printed argument list; there are none without arguments. -/
def printArguments : List TypeRef → List Char
  | [] => []
  | t :: ts => '<' :: print t ++ printFollowing ts

/-- The characters behind the first argument. -/
def printFollowing : List TypeRef → List Char
  | [] => ['>']
  | t :: ts => ',' :: ' ' :: print t ++ printFollowing ts

end

/-- The text of a type. -/
def text (t : TypeRef) : String := String.ofList t.print

end ControllerCompanion.TypeRef
