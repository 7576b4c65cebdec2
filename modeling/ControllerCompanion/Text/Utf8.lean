set_option autoImplicit false

/-! # Bytes as UTF-8 text

File names are bytes. Decoding takes them apart into characters and ill-formed parts; a name that
has such parts is shown with a replacement character for each. -/

namespace ControllerCompanion.Text

/-- A range of bytes, with its ends. -/
abbrev ByteRange := Nat × Nat

/-- The range of an ordinary byte behind a lead byte. -/
def continuation : ByteRange := (0x80, 0xbf)

/-- The ranges of the bytes that must follow a lead byte, or none if the byte leads nothing. -/
def followers (lead : Nat) : Option (List ByteRange) :=
  if lead < 0x80 then some []
  else if lead < 0xc2 then none
  else if lead < 0xe0 then some [continuation]
  else if lead = 0xe0 then some [(0xa0, 0xbf), continuation]
  else if lead = 0xed then some [(0x80, 0x9f), continuation]
  else if lead < 0xf0 then some [continuation, continuation]
  else if lead = 0xf0 then some [(0x90, 0xbf), continuation, continuation]
  else if lead < 0xf4 then some [continuation, continuation, continuation]
  else if lead = 0xf4 then some [(0x80, 0x8f), continuation, continuation]
  else none

/-- The bits of a code point that its lead byte carries. -/
def leadBits (lead : Nat) : Nat :=
  if lead < 0x80 then lead
  else if lead < 0xe0 then lead % 0x20
  else if lead < 0xf0 then lead % 0x10
  else lead % 0x08

/-- Takes the bytes that the ranges ask for, as long as they are there: the code point so far,
    whether all were there, and how many were taken. -/
def follow (codePoint taken : Nat) : List ByteRange → List Nat → Nat × Bool × Nat
  | [], _ => (codePoint, true, taken)
  | _ :: _, [] => (codePoint, false, taken)
  | (low, high) :: ranges, b :: bytes =>
    if low ≤ b ∧ b ≤ high then follow (codePoint * 0x40 + b % 0x40) (taken + 1) ranges bytes
    else (codePoint, false, taken)

/-- The characters of some bytes; `none` stands for a longest part that begins no character. -/
def decodeUtf8 : List Nat → List (Option Char)
  | [] => []
  | lead :: bytes =>
    match followers lead with
    | none => none :: decodeUtf8 bytes
    | some ranges =>
      let (codePoint, complete, taken) := follow (leadBits lead) 0 ranges bytes
      (if complete then some (Char.ofNat codePoint) else none) :: decodeUtf8 (bytes.drop taken)
  termination_by bytes => bytes.length
  decreasing_by all_goals simp only [List.length_drop, List.length_cons]; omega

/-- The text of some bytes, if all of them belong to characters. -/
def textOfUtf8? (bytes : List Nat) : Option String :=
  ((decodeUtf8 bytes).mapM id).map String.ofList

/-- The text of some bytes, with a replacement character for every ill-formed part. -/
def textOfUtf8 (bytes : List Nat) : String :=
  String.ofList ((decodeUtf8 bytes).map fun c => c.getD '\ufffd')

/-- The bytes of a text. -/
def utf8 (s : String) : List Nat := s.toUTF8.toList.map UInt8.toNat

end ControllerCompanion.Text
