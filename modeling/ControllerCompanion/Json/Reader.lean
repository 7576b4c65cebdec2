import ControllerCompanion.Json.Lexeme

set_option autoImplicit false

/-! # Reading JSON texts

Reading never fails: what is wrong with a text is part of the source that it gives, see
`ControllerCompanion.Json.Source`. Containers that are read may stand in one another up to a
limit; for a skipped value there is none. -/

namespace ControllerCompanion.Json

/-- How many containers may stand in one another when they are read. -/
def nestingLimit : Nat := 127

/-! ## Scans -/

/-- Something found at the start of the text `s`, and where skipping it leads: to a shorter text,
    or to a fault. -/
structure Scan (α : Type) (s : List Char) where
  found : α
  behind : Except Fault { rest : List Char // rest.length < s.length }

namespace Scan

/-- The fault that skipping leads to. -/
def fault? {α : Type} {s : List Char} (scan : Scan α s) : Option Fault :=
  match scan.behind with
  | .ok _ => none
  | .error f => some f

/-- Something found, with a fault behind it. -/
def stop {α : Type} {s : List Char} (found : α) (f : Fault) : Scan α s := ⟨found, .error f⟩

/-- The scan of `s` that leads where a scan of a part of `s` leads. -/
def within {α β : Type} {s t : List Char} (found : β) (scan : Scan α t)
    (h : t.length ≤ s.length) : Scan β s :=
  ⟨found, scan.behind.map fun ⟨rest, shorter⟩ => ⟨rest, Nat.lt_of_lt_of_le shorter h⟩⟩

/-- The source of a leaf that begins with the character `first`. -/
def leaf {α : Type} {s : List Char} (first : Char) (make : α → Source) (x : Lexeme α)
    (shorter : ∀ {rest : List Char}, x.behind = .ok rest → rest.length < s.length) :
    Scan Source s :=
  match h : x.behind with
  | .ok rest =>
    ⟨match x.value with
      | .ok a => make a
      | .error f => .broken (some first) f none, .ok ⟨rest, shorter h⟩⟩
  | .error f =>
    stop (match x.value with
      | .ok a => make a
      | .error g => .broken (some first) g (some f)) f

end Scan

/-! ## Values -/

/-- The source of a container with its content, at a depth where `room` more containers may be
    read. -/
def container {α : Type} (room : Nat) (make : List α → Ending → Option Fault → Source)
    (content : List α × Ending) (skipping : Option Fault) : Source :=
  match room with
  | 0 => make [] (.cut .malformed) skipping
  | _ => make content.1 content.2 skipping

/-- The source of a missing value: reading and skipping it meet the same fault at once. -/
def missing (f : Fault) : Source := .broken none f (some f)

mutual

/-- Reads a value, with the blanks before it. -/
def readValue (room : Nat) (s : List Char) : Scan Source s :=
  have le := length_skipBlanks_le s
  match hs : skipBlanks s with
  | [] => .stop (missing .truncated) .truncated
  | c :: cs =>
    have lt : cs.length < s.length := by
      simp only [hs, List.length_cons] at le
      omega
    if c = '"' then
      .leaf c .string (lexString cs) fun h => Nat.lt_trans (length_lexString_lt h) lt
    else if c = '[' then
      let content := readItems (room - 1) true cs
      .within (container room .array content.found content.fault?) content (Nat.le_of_lt lt)
    else if c = '\x7b' then
      let content := readMembers (room - 1) true cs
      .within (container room .object content.found content.fault?) content (Nat.le_of_lt lt)
    else if c = '-' || c.isDigit then
      .leaf c .number (lexNumber (c :: cs)) fun h =>
        Nat.lt_of_lt_of_le (length_lexNumber_lt h) (by simpa only [hs] using le)
    else if c = 'n' then
      .leaf c (fun _ => .null) (lexWord "null" () (c :: cs)) fun h =>
        Nat.lt_of_lt_of_le (length_lexWord_lt (by decide) h) (by simpa only [hs] using le)
    else if c = 't' then
      .leaf c .bool (lexWord "true" true (c :: cs)) fun h =>
        Nat.lt_of_lt_of_le (length_lexWord_lt (by decide) h) (by simpa only [hs] using le)
    else if c = 'f' then
      .leaf c .bool (lexWord "false" false (c :: cs)) fun h =>
        Nat.lt_of_lt_of_le (length_lexWord_lt (by decide) h) (by simpa only [hs] using le)
    else .stop (.broken (some c) .malformed (some .malformed)) .malformed
  termination_by 2 * s.length

/-- Reads the items of an array where an item may stand: behind the bracket (`first`) or a
    comma. -/
def readItems (room : Nat) (first : Bool) (s : List Char) : Scan (List Source × Ending) s :=
  have le := length_skipBlanks_le s
  match hs : skipBlanks s with
  | [] => .stop ([], if first then .cut .truncated else .dangling .truncated) .truncated
  | c :: cs =>
    have lt : cs.length < s.length := by
      simp only [hs, List.length_cons] at le
      omega
    if c = ']' then
      if first then ⟨([], .closed), .ok ⟨cs, lt⟩⟩
      else .stop ([], .dangling .malformed) .malformed
    else
      let item := readValue room s
      match item.behind with
      | .error f => .stop ([item.found], .cut f) f
      | .ok ⟨rest, shorter⟩ =>
        let more := readMoreItems room rest
        .within (item.found :: more.found.1, more.found.2) more (Nat.le_of_lt shorter)
  termination_by 2 * s.length + 1

/-- Reads the items of an array behind an item. -/
def readMoreItems (room : Nat) (s : List Char) : Scan (List Source × Ending) s :=
  have le := length_skipBlanks_le s
  match hs : skipBlanks s with
  | [] => .stop ([], .cut .truncated) .truncated
  | c :: cs =>
    have lt : cs.length < s.length := by
      simp only [hs, List.length_cons] at le
      omega
    if c = ']' then ⟨([], .closed), .ok ⟨cs, lt⟩⟩
    else if c = ',' then
      let more := readItems room false cs
      .within more.found more (Nat.le_of_lt lt)
    else .stop ([], .cut .malformed) .malformed
  termination_by 2 * s.length + 1

/-- Reads the members of an object where a key may stand: behind the brace (`first`) or a comma.
    A key that can be skipped but not read ends what a reader meets. -/
def readMembers (room : Nat) (first : Bool) (s : List Char) :
    Scan (List (String × Source) × Ending) s :=
  have le := length_skipBlanks_le s
  let ending (f : Fault) : Ending := if first then .cut f else .dangling f
  match hs : skipBlanks s with
  | [] => .stop ([], ending .truncated) .truncated
  | c :: cs =>
    have lt : cs.length < s.length := by
      simp only [hs, List.length_cons] at le
      omega
    if c = '\x7d' then
      if first then ⟨([], .closed), .ok ⟨cs, lt⟩⟩
      else .stop ([], .dangling .malformed) .malformed
    else if c = '"' then
      let key := lexString cs
      match hk : key.behind with
      | .error f =>
        match key.value with
        | .ok _ => .stop ([], ending f) f
        | .error g => .stop ([], ending g) f
      | .ok rest =>
        have shorter : rest.length < s.length := Nat.lt_trans (length_lexString_lt hk) lt
        let member := readMember room rest
        match key.value with
        | .ok k =>
          .within ((k, member.found.1) :: member.found.2.1, member.found.2.2) member
            (Nat.le_of_lt shorter)
        | .error g => .within ([], ending g) member (Nat.le_of_lt shorter)
    else .stop ([], ending .malformed) .malformed
  termination_by 2 * s.length + 1

/-- Reads the value of a member behind its key, and the members behind it. -/
def readMember (room : Nat) (s : List Char) :
    Scan (Source × List (String × Source) × Ending) s :=
  have le := length_skipBlanks_le s
  match hs : skipBlanks s with
  | [] => .stop (missing .truncated, [], .cut .truncated) .truncated
  | c :: cs =>
    have lt : cs.length < s.length := by
      simp only [hs, List.length_cons] at le
      omega
    if c = ':' then
      let value := readValue room cs
      match value.behind with
      | .error f => .stop (value.found, [], .cut f) f
      | .ok ⟨rest, shorter⟩ =>
        let more := readMoreMembers room rest
        .within (value.found, more.found) more (Nat.le_of_lt (Nat.lt_trans shorter lt))
    else .stop (missing .malformed, [], .cut .malformed) .malformed
  termination_by 2 * s.length + 1

/-- Reads the members of an object behind a member. -/
def readMoreMembers (room : Nat) (s : List Char) : Scan (List (String × Source) × Ending) s :=
  have le := length_skipBlanks_le s
  match hs : skipBlanks s with
  | [] => .stop ([], .cut .truncated) .truncated
  | c :: cs =>
    have lt : cs.length < s.length := by
      simp only [hs, List.length_cons] at le
      omega
    if c = '\x7d' then ⟨([], .closed), .ok ⟨cs, lt⟩⟩
    else if c = ',' then
      let more := readMembers room false cs
      .within more.found more (Nat.le_of_lt lt)
    else .stop ([], .cut .malformed) .malformed
  termination_by 2 * s.length + 1

end

/-! ## Documents -/

/-- What a reader meets in a whole text: a value, and the fault in what follows it. -/
structure Document where
  root : Source
  trailing : Option Fault
  deriving Inhabited

/-- The document of a text. Nothing but blanks may follow its value. -/
def Document.ofText (text : String) : Document :=
  let scan := readValue nestingLimit text.toList
  ⟨scan.found, match scan.behind with
    | .error f => some f
    | .ok ⟨rest, _⟩ => if skipBlanks rest = [] then none else some .malformed⟩

end ControllerCompanion.Json
