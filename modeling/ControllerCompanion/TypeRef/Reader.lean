import ControllerCompanion.TypeRef.Basic
import ControllerCompanion.Unicode.Character

set_option autoImplicit false

/-! # Reading type references

A type is a name, then arguments in angle brackets if there are any, then nullable and array
suffixes; blanks may stand between these parts. The suffixes are kept in the name, behind its
base, without the blanks inside them. -/

namespace ControllerCompanion.TypeRef

open Unicode

/-! ## Causes of failure -/

/-- Why a text is no type, said where reading stops. -/
inductive Stop where
  /-- No name stands where a type should begin. -/
  | missingName
  /-- A character stands where none like it can; `rest` is the text behind it. -/
  | unexpected (c : Char) (rest : List Char)
  /-- The text ends inside an argument list. -/
  | openArguments
  /-- An array suffix holds something else than commas and blanks, or never ends. -/
  | openRank
  deriving Repr, DecidableEq

/-- Why a text is no type, said of the whole text: an unexpected character is found at the byte
    `offset` of its UTF-8 form. -/
inductive Reason where
  | missingName
  | unexpected (c : Char) (offset : Nat)
  | openArguments
  | openRank
  deriving Repr, DecidableEq

/-- A text that is no type. -/
structure Invalid where
  input : String
  reason : Reason
  deriving Repr, DecidableEq

/-- The text of a reason. -/
def Reason.message : Reason → String
  | .missingName => "missing type name"
  | .unexpected c offset =>
    "unexpected '" ++ String.singleton c ++ "' at offset " ++ Nat.repr offset
  | .openArguments => "unterminated generic argument list"
  | .openRank => "unterminated array rank specifier"

/-- The text of the complaint. -/
def Invalid.message (e : Invalid) : String :=
  "Invalid type reference '" ++ e.input ++ "': " ++ e.reason.message

/-! ## Parts -/

/-- A character of a type's base name: a letter, a digit, or one of `_ . @ :`. -/
def isNameChar (c : Char) : Bool :=
  isAlphanumeric c || c == '_' || c == '.' || c == '@' || c == ':'

/-- The text without the blanks at its start. -/
def skipBlanks (s : List Char) : List Char := s.dropWhile isBlank

/-- Reads suffixes: `?` and brackets around commas, with blanks anywhere. Gives them without the
    blanks, and the text behind them; `inRank` says that a bracket is open. -/
def readSuffixes (inRank : Bool) : List Char → Except Stop (List Char × List Char)
  | [] => if inRank then .error .openRank else .ok ([], [])
  | c :: cs =>
    if inRank then
      if c = ']' then (readSuffixes false cs).map fun (suffix, rest) => (']' :: suffix, rest)
      else if c = ',' then (readSuffixes true cs).map fun (suffix, rest) => (',' :: suffix, rest)
      else if isBlank c then readSuffixes true cs
      else .error .openRank
    else
      if isBlank c then readSuffixes false cs
      else if c = '?' then (readSuffixes false cs).map fun (suffix, rest) => ('?' :: suffix, rest)
      else if c = '[' then (readSuffixes true cs).map fun (suffix, rest) => ('[' :: suffix, rest)
      else .ok ([], c :: cs)

theorem length_skipBlanks_le (s : List Char) : (skipBlanks s).length ≤ s.length :=
  (List.dropWhile_suffix isBlank).length_le

/-- With a character put before the suffixes that were read, the same text is behind them. -/
theorem exists_of_map_cons {c : Char} {r : Except Stop (List Char × List Char)}
    {suffix rest : List Char}
    (h : (r.map fun (suffix, rest) => (c :: suffix, rest)) = .ok (suffix, rest)) :
    ∃ suffix', r = .ok (suffix', rest) := by
  cases r with
  | error e => cases h
  | ok found =>
      obtain ⟨suffix', rest'⟩ := found
      obtain ⟨-, rfl⟩ := Prod.mk.inj (Except.ok.inj h)
      exact ⟨suffix', rfl⟩

theorem length_readSuffixes_le {inRank : Bool} {s suffix rest : List Char}
    (h : readSuffixes inRank s = .ok (suffix, rest)) : rest.length ≤ s.length := by
  fun_induction readSuffixes inRank s generalizing suffix with
  | case1 | case6 => cases h
  | case2 =>
      obtain ⟨-, rfl⟩ := Prod.mk.inj (Except.ok.inj h)
      exact Nat.le_refl _
  | case3 cs ih | case4 cs _ ih =>
      obtain ⟨suffix', hread⟩ := exists_of_map_cons h
      exact Nat.le_succ_of_le (ih hread)
  | case5 c cs _ _ _ ih => exact Nat.le_succ_of_le (ih h)
  | case7 inRank c cs _ _ ih => exact Nat.le_succ_of_le (ih h)
  | case8 inRank cs _ _ ih | case9 inRank cs _ _ _ ih =>
      obtain ⟨suffix', hread⟩ := exists_of_map_cons h
      exact Nat.le_succ_of_le (ih hread)
  | case10 inRank c cs =>
      obtain ⟨-, rfl⟩ := Prod.mk.inj (Except.ok.inj h)
      exact Nat.le_refl _

theorem length_ahead_lt {s : List Char} (h : (skipBlanks s).takeWhile isNameChar ≠ []) :
    (skipBlanks ((skipBlanks s).dropWhile isNameChar)).length < s.length := by
  have whole := congrArg List.length
    (List.takeWhile_append_dropWhile (p := isNameChar) (l := skipBlanks s))
  have start := length_skipBlanks_le s
  have behind := length_skipBlanks_le ((skipBlanks s).dropWhile isNameChar)
  have base := List.length_pos_iff.mpr h
  simp only [List.length_append] at whole
  omega

/-! ## Types -/

/-- Something read from the text `s`, and the text behind it, which is shorter than `s`. -/
structure Taken (α : Type) (s : List Char) where
  value : α
  rest : List Char
  shorter : rest.length < s.length

mutual

/-- Reads a type from the start of a text, with the blanks around it. -/
def readType (s : List Char) : Except Stop (Taken TypeRef s) :=
  let base := (skipBlanks s).takeWhile isNameChar
  let ahead := skipBlanks ((skipBlanks s).dropWhile isNameChar)
  if hb : base = [] then .error .missingName
  else
    match hahead : ahead with
    | '<' :: inner =>
      have hi : inner.length < s.length := by
        have shorter : ahead.length < s.length := length_ahead_lt hb
        rw [hahead] at shorter
        exact Nat.lt_trans (Nat.lt_succ_self _) shorter
      match readArguments inner with
      | .error e => .error e
      | .ok args =>
        match hr : readSuffixes false args.rest with
        | .error e => .error e
        | .ok (suffix, rest) =>
          .ok ⟨⟨String.ofList (base ++ suffix), args.value⟩, rest,
            Nat.lt_of_le_of_lt (length_readSuffixes_le hr) (Nat.lt_trans args.shorter hi)⟩
    | plain =>
      match hr : readSuffixes false plain with
      | .error e => .error e
      | .ok (suffix, rest) =>
        .ok ⟨⟨String.ofList (base ++ suffix), []⟩, rest,
          Nat.lt_of_le_of_lt (length_readSuffixes_le hr) (hahead ▸ length_ahead_lt hb)⟩
  termination_by 2 * s.length

/-- Reads the types of an argument list up to and with its closing bracket. -/
def readArguments (s : List Char) : Except Stop (Taken (List TypeRef) s) :=
  match readType s with
  | .error e => .error e
  | .ok t =>
    have ht := t.shorter
    match hr : skipBlanks t.rest with
    | [] => .error .openArguments
    | c :: rest =>
      have hs : rest.length < s.length := by
        have := length_skipBlanks_le t.rest
        simp only [hr, List.length_cons] at this
        omega
      if c = '>' then .ok ⟨[t.value], rest, hs⟩
      else if c = ',' then
        match readArguments rest with
        | .error e => .error e
        | .ok ts => .ok ⟨t.value :: ts.value, ts.rest, Nat.lt_trans ts.shorter hs⟩
      else .error (.unexpected c rest)
  termination_by 2 * s.length + 1

end

/-! ## Whole texts -/

/-- The number of bytes of the UTF-8 form of a text. -/
def byteCount (s : List Char) : Nat := s.foldl (fun n c => n + c.utf8Size) 0

/-- Says a stop of the whole text `s`: an unexpected character stands behind as many bytes as the
    text has before it. -/
def Stop.reason (s : List Char) : Stop → Reason
  | .missingName => .missingName
  | .unexpected c rest => .unexpected c (byteCount s - byteCount (c :: rest))
  | .openArguments => .openArguments
  | .openRank => .openRank

/-- The type a whole text stands for. -/
def parse (text : String) : Except Invalid TypeRef :=
  match readType text.toList with
  | .error e => .error ⟨text, e.reason text.toList⟩
  | .ok t =>
    match t.rest with
    | [] => .ok t.value
    | c :: rest => .error ⟨text, Stop.reason text.toList (.unexpected c rest)⟩

end ControllerCompanion.TypeRef
