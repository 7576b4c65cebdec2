import ControllerCompanion.Unicode.Character

set_option autoImplicit false

/-! # Quoted text in messages

A message shows a foreign text or character between quotes, with an escape for every character
that would not be seen as it is. -/

namespace ControllerCompanion.Text

open Unicode

/-- The digits of a number in base sixteen, in lower case. -/
def hexDigits (n : Nat) : List Char := Nat.toDigits 16 n

/-- The escape `\u{…}` of a character, with its code point in base sixteen. -/
def codePointEscape (c : Char) : List Char :=
  ['\\', 'u', '\x7b'] ++ hexDigits c.toNat ++ ['\x7d']

/-- Whether a character cannot be seen as it is in a text: it has no printed form, or its form
    merges with the character before it. -/
def isHidden (c : Char) : Bool :=
  !isPrintable c || isHangulFiller c || (isGraphemeExtend c && !isHalfwidthSoundMark c)

/-- A character as it is shown between quotes of the kind `quote`. -/
def shown (quote : Char) (c : Char) : List Char :=
  if c = '\x00' then ['\\', '0']
  else if c = '\t' then ['\\', 't']
  else if c = '\r' then ['\\', 'r']
  else if c = '\n' then ['\\', 'n']
  else if c = '\\' || c = quote then ['\\', c]
  else if isHidden c then codePointEscape c
  else [c]

/-- A text between double quotes. -/
def quoted (s : String) : String :=
  String.ofList ('"' :: s.toList.flatMap (shown '"') ++ ['"'])

/-- A character between single quotes. -/
def quotedChar (c : Char) : String :=
  String.ofList ('\'' :: shown '\'' c ++ ['\''])

/-- A text between backticks. -/
def ticked (s : String) : String := "`" ++ s ++ "`"

end ControllerCompanion.Text
