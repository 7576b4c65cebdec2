import ControllerCompanion.Unicode.Alphabetic
import ControllerCompanion.Unicode.Numeric
import ControllerCompanion.Unicode.Case
import ControllerCompanion.Unicode.GraphemeExtend
import ControllerCompanion.Unicode.Unprintable

set_option autoImplicit false

/-! # Character classes

The character classes that names, type texts and paths are judged by, read off the property
tables, and the lower-case form of a character. -/

namespace ControllerCompanion.Unicode

/-! ## Looking up a table -/

/-- Whether `n` lies in an interval of a table. The table is in increasing order, so the search
    ends at the first interval that begins beyond `n`. -/
def inIntervals (n : Nat) : List (Nat × Nat) → Bool
  | [] => false
  | (first, last) :: rest =>
    if n < first then false else if n ≤ last then true else inIntervals n rest

/-- Whether `n` lies on a run of a table of runs, which is in increasing order. -/
def inRuns (n : Nat) : List (Nat × Nat × Nat) → Bool
  | [] => false
  | (first, last, step) :: rest =>
    if n < first then false
    else if n ≤ last then (n - first) % step == 0
    else inRuns n rest

/-- The shift of the run that `n` lies on, if there is one. -/
def shift? (n : Nat) : List (Nat × Nat × Nat × Int) → Option Int
  | [] => none
  | (first, last, step, shift) :: rest =>
    if n < first then none
    else if n ≤ last then (if (n - first) % step == 0 then some shift else none)
    else shift? n rest

/-! ## Classes -/

/-- The property `White_Space`. -/
def whiteSpace : List (Nat × Nat) :=
  [(0x09, 0x0d), (0x20, 0x20), (0x85, 0x85), (0xa0, 0xa0), (0x1680, 0x1680), (0x2000, 0x200a),
    (0x2028, 0x2029), (0x202f, 0x202f), (0x205f, 0x205f), (0x3000, 0x3000)]

/-- The general category `Cc`. -/
def control : List (Nat × Nat) := [(0x00, 0x1f), (0x7f, 0x9f)]

/-- A blank: a character with the property `White_Space`. -/
def isBlank (c : Char) : Bool := inIntervals c.toNat whiteSpace

/-- A control character. -/
def isControl (c : Char) : Bool := inIntervals c.toNat control

/-- A character with the property `Alphabetic`. -/
def isAlphabetic (c : Char) : Bool := inIntervals c.toNat alphabetic

/-- A number of any kind. -/
def isNumeric (c : Char) : Bool := inIntervals c.toNat numeric

/-- An alphabetic character or a number. -/
def isAlphanumeric (c : Char) : Bool := isAlphabetic c || isNumeric c

/-- A character with the property `Uppercase`. -/
def isUpper (c : Char) : Bool := inRuns c.toNat uppercase

/-- A character with the property `Lowercase`. -/
def isLower (c : Char) : Bool := inRuns c.toNat lowercase

/-- A character that extends the one before it. -/
def isGraphemeExtend (c : Char) : Bool := inIntervals c.toNat graphemeExtend

/-- A character with a printed form. -/
def isPrintable (c : Char) : Bool := !inIntervals c.toNat unprintable

/-- A filler of Hangul: it counts as a letter, but it fills the place of one without a shape. -/
def isHangulFiller (c : Char) : Bool :=
  c = '\u115f' || c = '\u1160' || c = '\u3164' || c = '\uffa0'

/-- A sound mark of halfwidth katakana: it extends the character before it, but it takes a place
    of its own and is seen there. -/
def isHalfwidthSoundMark (c : Char) : Bool := c = '\uff9e' || c = '\uff9f'

/-! ## Lower case -/

/-- The lower-case form of a character by itself: the dotted capital i becomes two characters,
    every other one becomes one. -/
def lower (c : Char) : List Char :=
  if c = '\u0130' then ['i', '\u0307']
  else match shift? c.toNat lowering with
    | some shift => [Char.ofNat (c.toNat + shift).toNat]
    | none => [c]

end ControllerCompanion.Unicode
