import ControllerCompanion.Text.Utf8

set_option autoImplicit false

/-! # File names

The name of a file or directory is a text, unless its bytes are no UTF-8. A name is split at its
last dot into a stem and an extension. -/

namespace ControllerCompanion

/-- A file name. -/
inductive FileName where
  | text (name : String)
  | raw (bytes : List Nat)
  deriving Repr, DecidableEq, Inhabited

namespace FileName

/-- The name of some bytes. -/
def ofBytes (bytes : List Nat) : FileName :=
  match Text.textOfUtf8? bytes with
  | some name => .text name
  | none => .raw bytes

/-- The bytes of a name, by which names are sorted. -/
def bytes : FileName → List Nat
  | .text name => Text.utf8 name
  | .raw bytes => bytes

/-- The name as a text, if it is one. -/
def text? : FileName → Option String
  | .text name => some name
  | .raw _ => none

/-- The name as it is shown. -/
def shown : FileName → String
  | .text name => name
  | .raw bytes => Text.textOfUtf8 bytes

/-! ## Stem and extension -/

/-- Splits at the last occurrence of `dot`. A name that has none, or has its only one at the
    start, has no extension. -/
def splitExtension {α : Type} [BEq α] (dot : α) (name : List α) : List α × Option (List α) :=
  let extension := (name.reverse.takeWhile (· != dot)).reverse
  let before := name.take (name.length - extension.length - 1)
  if before.isEmpty then (name, none) else (before, some extension)

/-- The stem, if it is a text. -/
def stem? : FileName → Option String
  | .text name => some (String.ofList (splitExtension '.' name.toList).1)
  | .raw bytes => Text.textOfUtf8? (splitExtension 0x2e bytes).1

/-- The extension, if there is one and it is a text. -/
def extension? : FileName → Option String
  | .text name => (splitExtension '.' name.toList).2.map String.ofList
  | .raw bytes => (splitExtension 0x2e bytes).2.bind Text.textOfUtf8?

end FileName

end ControllerCompanion
