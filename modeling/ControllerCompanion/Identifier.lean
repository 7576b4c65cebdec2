import ControllerCompanion.Unicode.Character

set_option autoImplicit false

/-! # Identifiers

When a name can stand as an identifier in generated code, and how any file or folder name is
turned into one. -/

namespace ControllerCompanion.Identifier

open Unicode

/-- A character that can continue an identifier. -/
def isWordChar (c : Char) : Bool := isAlphanumeric c || c == '_'

/-- A character that can begin an identifier. -/
def isWordStart (c : Char) : Bool := isAlphabetic c || c == '_'

/-! ## Checking -/

/-- A word: one character that can begin an identifier, then characters that can continue it. -/
def isWord : List Char → Bool
  | [] => false
  | c :: rest => isWordStart c && rest.all isWordChar

/-- The name without the `@` that may stand before an identifier. -/
def withoutMark : List Char → List Char
  | '@' :: rest => rest
  | cs => cs

/-- Whether `name` is an identifier: a word, with one `@` before it or none. -/
def isValid (name : String) : Bool := isWord (withoutMark name.toList)

/-- A name that is no identifier. -/
structure Invalid where
  name : String
  deriving Repr, DecidableEq

/-- The text of the complaint. -/
def Invalid.message (e : Invalid) : String := "Invalid identifier: '" ++ e.name ++ "'"

/-- Refuses a name that is no identifier. -/
def check (name : String) : Except Invalid Unit :=
  if isValid name then .ok () else .error ⟨name⟩

/-! ## Making one -/

/-- The words of C# that cannot be used as identifiers. Words that are keywords only in some
    places are not among them. -/
def reservedKeywords : List String :=
  ["abstract", "as", "base", "bool", "break", "byte", "case", "catch", "char", "checked",
    "class", "const", "continue", "decimal", "default", "delegate", "do", "double", "else",
    "enum", "event", "explicit", "extern", "false", "finally", "fixed", "float", "for",
    "foreach", "goto", "if", "implicit", "in", "int", "interface", "internal", "is", "lock",
    "long", "namespace", "new", "null", "object", "operator", "out", "override", "params",
    "private", "protected", "public", "readonly", "ref", "return", "sbyte", "sealed", "short",
    "sizeof", "stackalloc", "static", "string", "struct", "switch", "this", "throw", "true",
    "try", "typeof", "uint", "ulong", "unchecked", "unsafe", "ushort", "using", "virtual",
    "void", "volatile", "while"]

/-- Whether `name` is a reserved keyword. -/
def isReserved (name : String) : Bool := reservedKeywords.contains name

/-- The name with `_` for every character that cannot stand in an identifier. -/
def mask (cs : List Char) : List Char := cs.map fun c => if isWordChar c then c else '_'

/-- Whether a masked name needs a `_` before it: it is empty or begins with an ASCII digit. -/
def needsUnderscore : List Char → Bool
  | [] => true
  | c :: _ => c.isDigit

/-- An identifier for an arbitrary name. Characters that cannot stand in one become `_`; a `_` is
    put before an empty result or a leading ASCII digit, and otherwise an `@` before a reserved
    keyword. -/
def sanitize (name : String) : String :=
  let masked := mask name.toList
  if needsUnderscore masked then String.ofList ('_' :: masked)
  else if isReserved (String.ofList masked) then String.ofList ('@' :: masked)
  else String.ofList masked

end ControllerCompanion.Identifier
