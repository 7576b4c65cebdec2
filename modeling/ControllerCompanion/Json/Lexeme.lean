import ControllerCompanion.Json.Source

set_option autoImplicit false

/-! # Strings, numbers and words of a JSON text

The leaves of a JSON text. Each is found twice at once: as it is for a reader who needs its value,
and for one who skips it. Both take the same characters, but a skipped string may hold half of a
surrogate pair, and a skipped number may be too large. -/

namespace ControllerCompanion.Json

/-- A leaf at the start of a text: its value, or the fault met when reading it, and the text
    behind it, or the fault met when skipping it. -/
structure Lexeme (α : Type) where
  value : Except Fault α
  behind : Except Fault (List Char)

/-- A lexeme that neither a reader nor a skipper gets past. -/
def Lexeme.fault {α : Type} (f : Fault) : Lexeme α := ⟨.error f, .error f⟩

/-! ## Blanks -/

/-- A blank of a JSON text. -/
def isBlank (c : Char) : Bool := c == ' ' || c == '\n' || c == '\t' || c == '\r'

/-- The text without the blanks at its start. -/
def skipBlanks (s : List Char) : List Char := s.dropWhile isBlank

/-! ## Strings -/

/-- A part of a string: a character, or a UTF-16 code unit given by its digits. -/
inductive Piece where
  | char (c : Char)
  | unit (n : Nat)

/-- The value of a digit of base sixteen. -/
def hexDigit? (c : Char) : Option Nat :=
  if '0' ≤ c ∧ c ≤ '9' then some (c.toNat - '0'.toNat)
  else if 'a' ≤ c ∧ c ≤ 'f' then some (c.toNat - 'a'.toNat + 10)
  else if 'A' ≤ c ∧ c ≤ 'F' then some (c.toNat - 'A'.toNat + 10)
  else none

/-- The code unit of four digits. -/
def codeUnit? (a b c d : Char) : Option Nat := do
  let a ← hexDigit? a
  let b ← hexDigit? b
  let c ← hexDigit? c
  let d ← hexDigit? d
  return ((a * 16 + b) * 16 + c) * 16 + d

/-- The character of an escape of one letter. -/
def unescape? (c : Char) : Option Char :=
  match c with
  | '"' => some '"'
  | '\\' => some '\\'
  | '/' => some '/'
  | 'b' => some '\x08'
  | 'f' => some '\x0c'
  | 'n' => some '\n'
  | 'r' => some '\r'
  | 't' => some '\t'
  | _ => none

/-- The pieces of a string up to its closing quote or its first fault, and the text behind the
    quote or the fault. An escape by digits needs four bytes, whatever they are. -/
def pieces : List Char → List Piece × Except Fault (List Char)
  | [] => ([], .error .truncated)
  | '"' :: rest => ([], .ok rest)
  | '\\' :: 'u' :: a :: b :: c :: d :: rest =>
    match codeUnit? a b c d with
    | some n => let (ps, behind) := pieces rest; (.unit n :: ps, behind)
    | none => ([], .error .malformed)
  | '\\' :: 'u' :: few =>
    ([], .error (if few.foldl (fun n c => n + c.utf8Size) 0 < 4 then .truncated else .malformed))
  | '\\' :: c :: rest =>
    match unescape? c with
    | some e => let (ps, behind) := pieces rest; (.char e :: ps, behind)
    | none => ([], .error .malformed)
  | '\\' :: [] => ([], .error .truncated)
  | c :: rest =>
    if c.toNat < 0x20 then ([], .error .malformed)
    else let (ps, behind) := pieces rest; (.char c :: ps, behind)

/-- What is behind a string is shorter than the string with it. -/
theorem length_pieces_lt {s rest : List Char} (h : (pieces s).2 = .ok rest) :
    rest.length < s.length := by
  fun_induction pieces s with
  | case1 | case4 | case5 | case7 | case8 | case9 => cases h
  | case2 behind =>
      obtain rfl : behind = rest := Except.ok.inj h
      exact Nat.lt_succ_self _
  | case3 a b c d behind _ _ _ _ hpieces ih =>
      have hlt : rest.length < behind.length := ih (by rw [hpieces]; exact h)
      simp only [List.length_cons]
      omega
  | case6 c behind _ _ _ _ _ _ hpieces ih =>
      have hlt : rest.length < behind.length := ih (by rw [hpieces]; exact h)
      simp only [List.length_cons]
      omega
  | case10 c behind _ _ _ _ _ _ _ _ hpieces ih =>
      have hlt : rest.length < behind.length := ih (by rw [hpieces]; exact h)
      exact Nat.lt_succ_of_lt hlt

/-- A code unit that begins a surrogate pair. -/
def isLeading (n : Nat) : Bool := 0xd800 ≤ n && n ≤ 0xdbff

/-- A code unit that ends a surrogate pair. -/
def isTrailing (n : Nat) : Bool := 0xdc00 ≤ n && n ≤ 0xdfff

/-- Joins pieces to a text, followed by the closing quote (`none`) or a fault. A leading surrogate
    must be followed by a trailing one, and a trailing one must follow it. -/
def join (fault : Option Fault) : List Piece → Except Fault (List Char)
  | [] => match fault with
    | none => .ok []
    | some f => .error f
  | .char c :: ps => (join fault ps).map (c :: ·)
  | .unit n :: ps =>
    if isTrailing n then .error .malformed
    else if isLeading n then
      match ps with
      | .unit m :: ps =>
        if isTrailing m then
          (join fault ps).map
            (Char.ofNat (0x10000 + (n - 0xd800) * 0x400 + (m - 0xdc00)) :: ·)
        else .error .malformed
      | .char _ :: _ => .error .malformed
      | [] => .error (fault.getD .malformed)
    else (join fault ps).map (Char.ofNat n :: ·)

/-- A string behind its opening quote. -/
def lexString (s : List Char) : Lexeme String :=
  let (ps, behind) := pieces s
  let fault := match behind with
    | .ok _ => none
    | .error f => some f
  ⟨(join fault ps).map String.ofList, behind⟩

/-! ## Numbers -/

/-- The number of a run of decimal digits. -/
def digitsValue (digits : List Char) : Nat :=
  digits.foldl (fun n c => 10 * n + (c.toNat - '0'.toNat)) 0

/-- The largest significand of 64 bits. -/
def largestSignificand : Nat := Nat.pow 2 64 - 1

/-- Reads digits into a significand as long as it has room: the significand, and how many digits
    were left. -/
def fill (significand : Nat) : List Char → Nat × Nat
  | [] => (significand, 0)
  | c :: cs =>
    let next := 10 * significand + (c.toNat - '0'.toNat)
    if next ≤ largestSignificand then fill next cs else (significand, cs.length + 1)

/-- The value of a number by its parts. Without fraction and exponent it is an integer if it fits;
    a zero with a sign is a double. Else whole digits without room in the significand count as a
    power of ten, and such digits of the fraction are left out. -/
def numberValue (negative : Bool) (whole : List Char) (fraction : Option (List Char))
    (exponent : Option Int) : Option Number :=
  let (significand, dropped) := fill 0 whole
  let isInteger := fraction.isNone && exponent.isNone && dropped == 0
  if isInteger && !negative then some (.integer significand)
  else if isInteger && 0 < significand && significand ≤ Nat.pow 2 63 then
    some (.integer (-(significand : Int)))
  else
    let digits := fraction.getD []
    let (filled, unread) := fill significand digits
    let shift : Int := dropped - (digits.length - unread : Nat) + exponent.getD 0
    (Double.ofDecimal negative filled shift).map .double

/-- Splits off the digits at the start of a text. -/
def spanDigits (s : List Char) : List Char × List Char :=
  (s.takeWhile Char.isDigit, s.dropWhile Char.isDigit)

/-- The lexeme where a digit is missing: at the end of the text a reader finds it truncated, but a
    skipper finds it malformed. -/
def missingDigit {α : Type} : List Char → Lexeme α
  | [] => ⟨.error .truncated, .error .malformed⟩
  | _ => .fault .malformed

/-- The lexeme of a number whose parts are known. -/
def lexemeOf (number : Option Number) (behind : List Char) : Lexeme Number :=
  ⟨number.elim (.error .malformed) .ok, .ok behind⟩

/-- The sign of an exponent, and the text behind it. -/
def exponentSign : List Char → Bool × List Char
  | '+' :: rest => (false, rest)
  | '-' :: rest => (true, rest)
  | s => (false, s)

/-- The rest of a number behind its fraction. -/
def lexExponent (negative : Bool) (whole : List Char) (fraction : Option (List Char))
    (s : List Char) : Lexeme Number :=
  match s with
  | [] => lexemeOf (numberValue negative whole fraction none) []
  | c :: rest =>
    if c = 'e' ∨ c = 'E' then
      match spanDigits (exponentSign rest).2 with
      | ([], behind) => missingDigit behind
      | (digits, behind) =>
        let size : Int := digitsValue digits
        let exponent := if (exponentSign rest).1 then -size else size
        lexemeOf (numberValue negative whole fraction (some exponent)) behind
    else lexemeOf (numberValue negative whole fraction none) s

/-- The rest of a number behind its whole digits. -/
def lexFraction (negative : Bool) (whole : List Char) (s : List Char) : Lexeme Number :=
  match s with
  | '.' :: rest =>
    match spanDigits rest with
    | ([], behind) => missingDigit behind
    | (digits, behind) => lexExponent negative whole (some digits) behind
  | _ => lexExponent negative whole none s

/-- A number behind its sign. It has a digit, and a leading zero stands alone. -/
def lexUnsigned (negative : Bool) (s : List Char) : Lexeme Number :=
  match spanDigits s with
  | ([], behind) => missingDigit behind
  | ('0' :: _ :: _, _) => .fault .malformed
  | (whole, behind) => lexFraction negative whole behind

/-- A number. -/
def lexNumber : List Char → Lexeme Number
  | '-' :: rest => lexUnsigned true rest
  | s => lexUnsigned false s

/-! ## Words -/

/-- Reads the characters of a word. -/
def expect : List Char → List Char → Except Fault (List Char)
  | [], s => .ok s
  | _ :: _, [] => .error .truncated
  | w :: ws, c :: s => if c = w then expect ws s else .error .malformed

/-- The word and what is behind it are the text. -/
theorem length_expect {word s rest : List Char} (h : expect word s = .ok rest) :
    rest.length + word.length = s.length := by
  fun_induction expect word s with
  | case1 s =>
      obtain rfl : s = rest := Except.ok.inj h
      rfl
  | case2 | case4 => cases h
  | case3 word c s ih => rw [List.length_cons, List.length_cons, ← Nat.add_assoc, ih h]

/-- A word that stands for a value. -/
def lexWord {α : Type} (word : String) (value : α) (s : List Char) : Lexeme α :=
  match expect word.toList s with
  | .ok rest => ⟨.ok value, .ok rest⟩
  | .error f => .fault f

/-! ## What is left is shorter -/

theorem length_skipBlanks_le (s : List Char) : (skipBlanks s).length ≤ s.length :=
  (List.dropWhile_suffix isBlank).length_le

theorem length_spanDigits (s : List Char) :
    (spanDigits s).1.length + (spanDigits s).2.length = s.length := by
  rw [← List.length_append, spanDigits, List.takeWhile_append_dropWhile]

theorem behind_missingDigit {α : Type} (s : List Char) :
    (missingDigit (α := α) s).behind = .error .malformed := by
  cases s <;> rfl

theorem length_exponentSign_le (s : List Char) : (exponentSign s).2.length ≤ s.length := by
  unfold exponentSign
  split <;> simp

theorem length_lexExponent_le {negative : Bool} {whole : List Char} {fraction : Option (List Char)}
    {s rest : List Char} (h : (lexExponent negative whole fraction s).behind = .ok rest) :
    rest.length ≤ s.length := by
  unfold lexExponent at h
  split at h
  next =>
    obtain rfl : [] = rest := Except.ok.inj h
    exact Nat.le_refl _
  next c cs =>
    split at h
    next =>
      split at h
      next => simp [behind_missingDigit] at h
      next digits behind _ hdigits =>
        obtain rfl : behind = rest := Except.ok.inj h
        have hspan := length_spanDigits (exponentSign cs).2
        have hsign := length_exponentSign_le cs
        simp only [hdigits] at hspan
        simp only [List.length_cons]
        omega
    next =>
      obtain rfl : c :: cs = rest := Except.ok.inj h
      exact Nat.le_refl _

theorem length_lexFraction_le {negative : Bool} {whole s rest : List Char}
    (h : (lexFraction negative whole s).behind = .ok rest) : rest.length ≤ s.length := by
  unfold lexFraction at h
  split at h
  next cs =>
    split at h
    next => simp [behind_missingDigit] at h
    next digits behind _ hdigits =>
      have hspan := length_spanDigits cs
      have hbehind := length_lexExponent_le h
      simp only [hdigits] at hspan
      simp only [List.length_cons]
      omega
  next => exact length_lexExponent_le h

theorem length_lexUnsigned_lt {negative : Bool} {s rest : List Char}
    (h : (lexUnsigned negative s).behind = .ok rest) : rest.length < s.length := by
  unfold lexUnsigned at h
  split at h
  next => simp [behind_missingDigit] at h
  next => simp [Lexeme.fault] at h
  next whole behind hne _ hdigits =>
    have hspan := length_spanDigits s
    have hbehind := length_lexFraction_le h
    have hpos : 0 < whole.length := List.length_pos_iff.2 fun hnil => hne hnil
    simp only [hdigits] at hspan
    omega

theorem length_lexNumber_lt {s rest : List Char} (h : (lexNumber s).behind = .ok rest) :
    rest.length < s.length := by
  unfold lexNumber at h
  split at h
  · exact Nat.lt_succ_of_lt (length_lexUnsigned_lt h)
  · exact length_lexUnsigned_lt h

theorem length_lexString_lt {s rest : List Char} (h : (lexString s).behind = .ok rest) :
    rest.length < s.length :=
  length_pieces_lt h

theorem length_lexWord_lt {α : Type} {word : String} {value : α} {s rest : List Char}
    (nonempty : word.toList ≠ []) (h : (lexWord word value s).behind = .ok rest) :
    rest.length < s.length := by
  unfold lexWord at h
  split at h
  next behind hword =>
    obtain rfl : behind = rest := Except.ok.inj h
    have hlength : behind.length + word.toList.length = s.length := length_expect hword
    have hpos : 0 < word.toList.length := List.length_pos_iff.2 nonempty
    omega
  next => simp [Lexeme.fault] at h

end ControllerCompanion.Json
