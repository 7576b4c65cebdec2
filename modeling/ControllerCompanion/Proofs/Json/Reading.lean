import ControllerCompanion.Decoder.Basic
import ControllerCompanion.Proofs.Json.Strings

set_option autoImplicit false

/-! # Printed documents are read back

What a reader meets in a printed value is the value, with no fault, if not too many containers
stand in one another (`readValue_print`). Numbers are left out, since declarations hold none. -/

namespace ControllerCompanion.Json

/-! ## Scans that arrive -/

/-- What a scan finds, and the text that skipping it leads to. -/
def Scan.Finds {α : Type} {s : List Char} (scan : Scan α s) (found : α) (rest : List Char) : Prop :=
  scan.found = found ∧ scan.behind.map Subtype.val = .ok rest

namespace Scan

variable {α β : Type} {s t rest : List Char} {found : α}

theorem Finds.exists_behind {scan : Scan α s} (h : scan.Finds found rest) :
    ∃ shorter, scan.behind = .ok ⟨rest, shorter⟩ := by
  obtain ⟨-, hbehind⟩ := h
  cases hscan : scan.behind with
  | error f => simp [hscan, Except.map] at hbehind
  | ok r =>
      obtain rfl : r.val = rest := by simpa [hscan, Except.map] using hbehind
      exact ⟨r.property, rfl⟩

theorem Finds.fault? {scan : Scan α s} (h : scan.Finds found rest) : scan.fault? = none := by
  obtain ⟨shorter, hbehind⟩ := h.exists_behind
  rw [Scan.fault?, hbehind]

theorem Finds.within {scan : Scan α t} (h : scan.Finds found rest) (b : β)
    (hle : t.length ≤ s.length) : (Scan.within b scan hle : Scan β s).Finds b rest := by
  obtain ⟨shorter, hbehind⟩ := h.exists_behind
  refine ⟨rfl, ?_⟩
  rw [Scan.within, hbehind]
  rfl

theorem finds_leaf {first : Char} {make : α → Source} {x : Lexeme α} {a : α}
    (shorter : ∀ {rest : List Char}, x.behind = .ok rest → rest.length < s.length)
    (hx : x = ⟨.ok a, .ok rest⟩) : (leaf first make x shorter).Finds (make a) rest := by
  subst hx
  exact ⟨rfl, rfl⟩

end Scan

/-! ## Readers step by step -/

section Steps

variable {room : Nat} {first : Bool} {s cs behind rest : List Char} {a : Source}
  {as : List Source} {ms : List (String × Source)} {key : String} {ending : Ending}

theorem length_lt_of_skipBlanks {c : Char} (hs : skipBlanks s = c :: cs) :
    cs.length < s.length := by
  have hle := length_skipBlanks_le s
  rwa [hs] at hle

theorem container_of_pos {α : Type} {make : List α → Ending → Option Fault → Source}
    {content : List α × Ending} {skipping : Option Fault} (hroom : 0 < room) :
    container room make content skipping = make content.1 content.2 skipping := by
  cases room with
  | zero => exact absurd hroom (Nat.lt_irrefl 0)
  | succ room => rfl

theorem readValue_string {t : String} (hs : skipBlanks s = '"' :: cs)
    (h : lexString cs = ⟨.ok t, .ok rest⟩) : (readValue room s).Finds (.string t) rest := by
  rw [readValue]
  split
  next hnil => simp [hs] at hnil
  next c other hcons =>
    obtain ⟨rfl, rfl⟩ : '"' = c ∧ cs = other := by simpa [hs] using hcons
    rw [if_pos rfl]
    exact Scan.finds_leaf
      (fun hbehind => Nat.lt_trans (length_lexString_lt hbehind) (length_lt_of_skipBlanks hs)) h

theorem readValue_array (hroom : 0 < room) (hs : skipBlanks s = '[' :: cs)
    (h : (readItems (room - 1) true cs).Finds (as, ending) rest) :
    (readValue room s).Finds (.array as ending none) rest := by
  rw [readValue]
  split
  next hnil => simp [hs] at hnil
  next c other hcons =>
    obtain ⟨rfl, rfl⟩ : '[' = c ∧ cs = other := by simpa [hs] using hcons
    rw [if_neg (by decide), if_pos rfl]
    have hfound : container room .array (readItems (room - 1) true cs).found
        (readItems (room - 1) true cs).fault? = .array as ending none := by
      rw [container_of_pos hroom, h.1, h.fault?]
    rw [← hfound]
    exact h.within _ _

theorem readValue_object (hroom : 0 < room) (hs : skipBlanks s = '\x7b' :: cs)
    (h : (readMembers (room - 1) true cs).Finds (ms, ending) rest) :
    (readValue room s).Finds (.object ms ending none) rest := by
  rw [readValue]
  split
  next hnil => simp [hs] at hnil
  next c other hcons =>
    obtain ⟨rfl, rfl⟩ : '\x7b' = c ∧ cs = other := by simpa [hs] using hcons
    rw [if_neg (by decide), if_neg (by decide), if_pos rfl]
    have hfound : container room .object (readMembers (room - 1) true cs).found
        (readMembers (room - 1) true cs).fault? = .object ms ending none := by
      rw [container_of_pos hroom, h.1, h.fault?]
    rw [← hfound]
    exact h.within _ _

theorem expect_append (word rest : List Char) : expect word (word ++ rest) = .ok rest := by
  induction word with
  | nil => rfl
  | cons c word ih => rw [List.cons_append, expect, if_pos rfl, ih]

theorem lexWord_append {α : Type} (word : String) (value : α) (rest : List Char) :
    lexWord word value (word.toList ++ rest) = ⟨.ok value, .ok rest⟩ := by
  rw [lexWord, expect_append]

theorem shorter_of_lexWord {α : Type} {word : String} {value : α} {t : List Char}
    (hword : word.toList ≠ []) (hs : skipBlanks s = t) {rest : List Char}
    (h : (lexWord word value t).behind = .ok rest) : rest.length < s.length := by
  have hle := length_skipBlanks_le s
  rw [hs] at hle
  exact Nat.lt_of_lt_of_le (length_lexWord_lt hword h) hle

theorem readValue_null (hs : skipBlanks s = "null".toList ++ rest) :
    (readValue room s).Finds .null rest := by
  rw [readValue]
  split
  next hnil => simp [hs] at hnil
  next c other hcons =>
    obtain ⟨rfl, rfl⟩ : 'n' = c ∧ 'u' :: 'l' :: 'l' :: rest = other := by simpa [hs] using hcons
    rw [if_neg (by decide), if_neg (by decide), if_neg (by decide), if_neg (by decide), if_pos rfl]
    exact Scan.finds_leaf (shorter_of_lexWord (by decide) hs) (lexWord_append "null" () rest)

theorem readValue_true (hs : skipBlanks s = "true".toList ++ rest) :
    (readValue room s).Finds (.bool true) rest := by
  rw [readValue]
  split
  next hnil => simp [hs] at hnil
  next c other hcons =>
    obtain ⟨rfl, rfl⟩ : 't' = c ∧ 'r' :: 'u' :: 'e' :: rest = other := by simpa [hs] using hcons
    rw [if_neg (by decide), if_neg (by decide), if_neg (by decide), if_neg (by decide),
      if_neg (by decide), if_pos rfl]
    exact Scan.finds_leaf (shorter_of_lexWord (by decide) hs) (lexWord_append "true" true rest)

theorem readValue_false (hs : skipBlanks s = "false".toList ++ rest) :
    (readValue room s).Finds (.bool false) rest := by
  rw [readValue]
  split
  next hnil => simp [hs] at hnil
  next c other hcons =>
    obtain ⟨rfl, rfl⟩ : 'f' = c ∧ 'a' :: 'l' :: 's' :: 'e' :: rest = other := by
      simpa [hs] using hcons
    rw [if_neg (by decide), if_neg (by decide), if_neg (by decide), if_neg (by decide),
      if_neg (by decide), if_neg (by decide), if_pos rfl]
    exact Scan.finds_leaf (shorter_of_lexWord (by decide) hs) (lexWord_append "false" false rest)

theorem readItems_close (hs : skipBlanks s = ']' :: rest) :
    (readItems room true s).Finds ([], .closed) rest := by
  rw [readItems]
  split
  next hnil => simp [hs] at hnil
  next c other hcons =>
    obtain ⟨rfl, rfl⟩ : ']' = c ∧ rest = other := by simpa [hs] using hcons
    rw [if_pos rfl, if_pos rfl]
    exact ⟨rfl, rfl⟩

theorem readItems_value {c : Char} (hs : skipBlanks s = c :: cs) (hc : c ≠ ']')
    (hvalue : (readValue room s).Finds a behind)
    (hmore : (readMoreItems room behind).Finds (as, ending) rest) :
    (readItems room first s).Finds (a :: as, ending) rest := by
  obtain ⟨shorter, hbehind⟩ := hvalue.exists_behind
  rw [readItems]
  split
  next hnil => simp [hs] at hnil
  next c' other hcons =>
    obtain ⟨rfl, rfl⟩ : c = c' ∧ cs = other := by simpa [hs] using hcons
    rw [if_neg hc]
    simp only [hbehind]
    have hfound : (a :: as, ending) = ((readValue room s).found ::
        (readMoreItems room behind).found.1, (readMoreItems room behind).found.2) := by
      rw [hvalue.1, hmore.1]
    rw [hfound]
    exact hmore.within _ _

theorem readMoreItems_close (hs : skipBlanks s = ']' :: rest) :
    (readMoreItems room s).Finds ([], .closed) rest := by
  rw [readMoreItems]
  split
  next hnil => simp [hs] at hnil
  next c other hcons =>
    obtain ⟨rfl, rfl⟩ : ']' = c ∧ rest = other := by simpa [hs] using hcons
    rw [if_pos rfl]
    exact ⟨rfl, rfl⟩

theorem readMoreItems_comma (hs : skipBlanks s = ',' :: cs)
    (h : (readItems room false cs).Finds (as, ending) rest) :
    (readMoreItems room s).Finds (as, ending) rest := by
  rw [readMoreItems]
  split
  next hnil => simp [hs] at hnil
  next c other hcons =>
    obtain ⟨rfl, rfl⟩ : ',' = c ∧ cs = other := by simpa [hs] using hcons
    rw [if_neg (by decide), if_pos rfl, ← h.1]
    exact h.within _ _

theorem readMembers_close (hs : skipBlanks s = '\x7d' :: rest) :
    (readMembers room true s).Finds ([], .closed) rest := by
  rw [readMembers]
  split
  next hnil => simp [hs] at hnil
  next c other hcons =>
    obtain ⟨rfl, rfl⟩ : '\x7d' = c ∧ rest = other := by simpa [hs] using hcons
    rw [if_pos rfl, if_pos rfl]
    exact ⟨rfl, rfl⟩

theorem readMembers_key (hs : skipBlanks s = '"' :: cs)
    (hkey : lexString cs = ⟨.ok key, .ok behind⟩)
    (hmember : (readMember room behind).Finds (a, ms, ending) rest) :
    (readMembers room first s).Finds ((key, a) :: ms, ending) rest := by
  rw [readMembers]
  split
  next hnil => simp [hs] at hnil
  next c other hcons =>
    obtain ⟨rfl, rfl⟩ : '"' = c ∧ cs = other := by simpa [hs] using hcons
    rw [if_neg (by decide), if_pos rfl]
    have hbehind : (lexString cs).behind = .ok behind := by rw [hkey]
    have hfound : ((key, a) :: ms, ending) = ((key, (readMember room behind).found.1)
        :: (readMember room behind).found.2.1, (readMember room behind).found.2.2) := by
      rw [hmember.1]
    simp only [hkey]
    split
    next f hf => simp [hbehind] at hf
    next rest' hrest =>
      obtain rfl : behind = rest' := by simpa [hbehind] using hrest
      rw [hfound]
      exact hmember.within _ _

theorem readMember_colon (hs : skipBlanks s = ':' :: cs)
    (hvalue : (readValue room cs).Finds a behind)
    (hmore : (readMoreMembers room behind).Finds (ms, ending) rest) :
    (readMember room s).Finds (a, ms, ending) rest := by
  obtain ⟨shorter, hbehind⟩ := hvalue.exists_behind
  rw [readMember]
  split
  next hnil => simp [hs] at hnil
  next c other hcons =>
    obtain ⟨rfl, rfl⟩ : ':' = c ∧ cs = other := by simpa [hs] using hcons
    rw [if_pos rfl]
    simp only [hbehind]
    have hfound : (a, ms, ending)
        = ((readValue room cs).found, (readMoreMembers room behind).found) := by
      rw [hvalue.1, hmore.1]
    rw [hfound]
    exact hmore.within _ _

theorem readMoreMembers_close (hs : skipBlanks s = '\x7d' :: rest) :
    (readMoreMembers room s).Finds ([], .closed) rest := by
  rw [readMoreMembers]
  split
  next hnil => simp [hs] at hnil
  next c other hcons =>
    obtain ⟨rfl, rfl⟩ : '\x7d' = c ∧ rest = other := by simpa [hs] using hcons
    rw [if_pos rfl]
    exact ⟨rfl, rfl⟩

theorem readMoreMembers_comma (hs : skipBlanks s = ',' :: cs)
    (h : (readMembers room false cs).Finds (ms, ending) rest) :
    (readMoreMembers room s).Finds (ms, ending) rest := by
  rw [readMoreMembers]
  split
  next hnil => simp [hs] at hnil
  next c other hcons =>
    obtain ⟨rfl, rfl⟩ : ',' = c ∧ cs = other := by simpa [hs] using hcons
    rw [if_neg (by decide), if_pos rfl, ← h.1]
    exact h.within _ _

end Steps

/-! ## Printed values -/

mutual

/-- How many containers stand in one another in a value. -/
def nesting : Json → Nat
  | .array items => nestingItems items + 1
  | .object members => nestingMembers members + 1
  | _ => 0

/-- The deepest nesting of an item. -/
def nestingItems : List Json → Nat
  | [] => 0
  | v :: vs => max (nesting v) (nestingItems vs)

/-- The deepest nesting of a member. -/
def nestingMembers : List (String × Json) → Nat
  | [] => 0
  | (_, v) :: ms => max (nesting v) (nestingMembers ms)

end

mutual

/-- The numbers in a value. -/
def numbers : Json → List Nat
  | .number n => [n]
  | .array items => numbersItems items
  | .object members => numbersMembers members
  | _ => []

/-- The numbers in some items. -/
def numbersItems : List Json → List Nat
  | [] => []
  | v :: vs => numbers v ++ numbersItems vs

/-- The numbers in some members. -/
def numbersMembers : List (String × Json) → List Nat
  | [] => []
  | (_, v) :: ms => numbers v ++ numbersMembers ms

end

theorem skipBlanks_spaces (n : Nat) (s : List Char) :
    skipBlanks (List.replicate n ' ' ++ s) = skipBlanks s := by
  induction n with
  | zero => rfl
  | succ n ih => exact ih

theorem skipBlanks_newline (depth : Nat) (s : List Char) :
    skipBlanks (newline depth ++ s) = skipBlanks s :=
  skipBlanks_spaces (2 * depth) s

/-- A printed value begins with a character that is no blank and closes no array. -/
theorem exists_print_eq_cons (depth : Nat) (v : Json) (hv : v.numbers = []) :
    ∃ c cs, v.print depth = c :: cs ∧ isBlank c = false ∧ c ≠ ']' := by
  cases v with
  | null => exact ⟨'n', ['u', 'l', 'l'], rfl, by decide, by decide⟩
  | bool b =>
      cases b with
      | true => exact ⟨'t', ['r', 'u', 'e'], rfl, by decide, by decide⟩
      | false => exact ⟨'f', ['a', 'l', 's', 'e'], rfl, by decide, by decide⟩
  | number n => simp [numbers] at hv
  | string s => exact ⟨'"', _, rfl, by decide, by decide⟩
  | array items =>
      cases items with
      | nil => exact ⟨'[', _, rfl, by decide, by decide⟩
      | cons v vs => exact ⟨'[', _, rfl, by decide, by decide⟩
  | object members =>
      cases members with
      | nil => exact ⟨'\x7b', _, rfl, by decide, by decide⟩
      | cons m ms => exact ⟨'\x7b', _, rfl, by decide, by decide⟩

theorem skipBlanks_print (depth : Nat) {v : Json} (hv : v.numbers = []) (rest : List Char) :
    skipBlanks (v.print depth ++ rest) = v.print depth ++ rest := by
  obtain ⟨c, cs, hprint, hblank, -⟩ := exists_print_eq_cons depth v hv
  rw [hprint, List.cons_append, skipBlanks, List.dropWhile_cons, hblank]
  rfl

theorem skipBlanks_newline_print (depth : Nat) {v : Json} (hv : v.numbers = [])
    (rest : List Char) :
    skipBlanks (newline depth ++ (v.print depth ++ rest)) = v.print depth ++ rest := by
  rw [skipBlanks_newline, skipBlanks_print depth hv]

theorem skipBlanks_blank_print (depth : Nat) {v : Json} (hv : v.numbers = [])
    (rest : List Char) : skipBlanks (' ' :: (v.print depth ++ rest)) = v.print depth ++ rest :=
  skipBlanks_print depth hv rest

theorem skipBlanks_newline_quote (depth : Nat) (key : String) (rest : List Char) :
    skipBlanks (newline depth ++ (quote key ++ rest)) = quote key ++ rest := by
  rw [skipBlanks_newline, quote_append]
  rfl

section Parts

variable {room depth : Nat} {first : Bool} {s behind rest : List Char} {v : Json} {key : String}
  {as : List Source} {ms : List (String × Source)} {ending : Ending}

/-- A printed item, with what follows it. -/
theorem readItems_print (hv : v.numbers = []) (hs : skipBlanks s = v.print depth ++ behind)
    (hvalue : (readValue room s).Finds v.source behind)
    (hmore : (readMoreItems room behind).Finds (as, ending) rest) :
    (readItems room first s).Finds (v.source :: as, ending) rest := by
  obtain ⟨c, cs, hprint, -, hc⟩ := exists_print_eq_cons depth v hv
  rw [hprint, List.cons_append] at hs
  exact readItems_value hs hc hvalue hmore

/-- A printed member, with what follows it. -/
theorem readMembers_print
    (hs : skipBlanks s = quote key ++ (':' :: ' ' :: (v.print depth ++ behind)))
    (hvalue : (readValue room (' ' :: (v.print depth ++ behind))).Finds v.source behind)
    (hmore : (readMoreMembers room behind).Finds (ms, ending) rest) :
    (readMembers room first s).Finds ((key, v.source) :: ms, ending) rest := by
  rw [quote_append] at hs
  exact readMembers_key hs (lexString_of_quote key _) (readMember_colon rfl hvalue hmore)

end Parts

mutual

/-- **What a reader meets in a printed value is the value.** -/
theorem readValue_print {v : Json} {room depth : Nat} {s rest : List Char}
    (hroom : v.nesting ≤ room) (hv : v.numbers = []) (hs : skipBlanks s = v.print depth ++ rest) :
    (readValue room s).Finds v.source rest := by
  match v with
  | .null => exact readValue_null hs
  | .bool true => exact readValue_true hs
  | .bool false => exact readValue_false hs
  | .number n => simp [numbers] at hv
  | .string t =>
      rw [print, quote_append] at hs
      exact readValue_string hs (lexString_of_quote t rest)
  | .array [] =>
      have hpos : 0 < room := Nat.lt_of_lt_of_le (Nat.succ_pos _) hroom
      exact readValue_array hpos hs (readItems_close rfl)
  | .array (v :: vs) =>
      -- inside, one container less may be read
      rw [nesting, nestingItems] at hroom
      rw [numbers, numbersItems, List.append_eq_nil_iff] at hv
      simp only [print, List.cons_append, List.append_assoc, List.nil_append] at hs
      have hstart := skipBlanks_newline_print (depth + 1) hv.1
        (printItems (depth + 1) vs ++ (newline depth ++ ']' :: rest))
      have hvalue := readValue_print (show v.nesting ≤ room - 1 by omega) hv.1 hstart
      have hmore := readMoreItems_printItems (show nestingItems vs ≤ room - 1 by omega) hv.2
        (depth + 1) depth rest
      exact readValue_array (by omega) hs (readItems_print hv.1 hstart hvalue hmore)
  | .object [] =>
      have hpos : 0 < room := Nat.lt_of_lt_of_le (Nat.succ_pos _) hroom
      exact readValue_object hpos hs (readMembers_close rfl)
  | .object ((key, v) :: ms) =>
      rw [nesting, nestingMembers] at hroom
      rw [numbers, numbersMembers, List.append_eq_nil_iff] at hv
      simp only [print, List.cons_append, List.append_assoc, List.nil_append] at hs
      have hstart := skipBlanks_newline_quote (depth + 1) key (':' :: ' ' :: (v.print (depth + 1)
        ++ (printMembers (depth + 1) ms ++ (newline depth ++ '\x7d' :: rest))))
      have hvalue := readValue_print (show v.nesting ≤ room - 1 by omega) hv.1
        (skipBlanks_blank_print (depth + 1) hv.1
          (printMembers (depth + 1) ms ++ (newline depth ++ '\x7d' :: rest)))
      have hmore := readMoreMembers_printMembers
        (show nestingMembers ms ≤ room - 1 by omega) hv.2 (depth + 1) depth rest
      exact readValue_object (by omega) hs (readMembers_print hstart hvalue hmore)

theorem readMoreItems_printItems {vs : List Json} {room : Nat} (hroom : nestingItems vs ≤ room)
    (hvs : numbersItems vs = []) (depth depth' : Nat) (rest : List Char) :
    (readMoreItems room (printItems depth vs ++ (newline depth' ++ ']' :: rest))).Finds
      (sourceItems vs, .closed) rest := by
  match vs with
  | [] => exact readMoreItems_close (skipBlanks_newline depth' _)
  | v :: vs =>
      rw [nestingItems] at hroom
      rw [numbersItems, List.append_eq_nil_iff] at hvs
      have hcomma : skipBlanks (printItems depth (v :: vs) ++ (newline depth' ++ ']' :: rest))
          = ',' :: (newline depth ++ (v.print depth
            ++ (printItems depth vs ++ (newline depth' ++ ']' :: rest)))) := by
        simp only [printItems, List.cons_append, List.append_assoc]
        rfl
      have hstart := skipBlanks_newline_print depth hvs.1
        (printItems depth vs ++ (newline depth' ++ ']' :: rest))
      have hvalue := readValue_print (show v.nesting ≤ room by omega) hvs.1 hstart
      have hmore := readMoreItems_printItems (show nestingItems vs ≤ room by omega) hvs.2
        depth depth' rest
      exact readMoreItems_comma hcomma (readItems_print hvs.1 hstart hvalue hmore)

theorem readMoreMembers_printMembers {ms : List (String × Json)} {room : Nat}
    (hroom : nestingMembers ms ≤ room) (hms : numbersMembers ms = []) (depth depth' : Nat)
    (rest : List Char) :
    (readMoreMembers room (printMembers depth ms ++ (newline depth' ++ '\x7d' :: rest))).Finds
      (sourceMembers ms, .closed) rest := by
  match ms with
  | [] => exact readMoreMembers_close (skipBlanks_newline depth' _)
  | (key, v) :: ms =>
      rw [nestingMembers] at hroom
      rw [numbersMembers, List.append_eq_nil_iff] at hms
      have hcomma : skipBlanks (printMembers depth ((key, v) :: ms)
            ++ (newline depth' ++ '\x7d' :: rest))
          = ',' :: (newline depth ++ (quote key ++ (':' :: ' ' :: (v.print depth
            ++ (printMembers depth ms ++ (newline depth' ++ '\x7d' :: rest)))))) := by
        simp only [printMembers, List.cons_append, List.append_assoc, List.nil_append]
        rfl
      have hstart := skipBlanks_newline_quote depth key (':' :: ' ' :: (v.print depth
        ++ (printMembers depth ms ++ (newline depth' ++ '\x7d' :: rest))))
      have hvalue := readValue_print (show v.nesting ≤ room by omega) hms.1
        (skipBlanks_blank_print depth hms.1
          (printMembers depth ms ++ (newline depth' ++ '\x7d' :: rest)))
      have hmore := readMoreMembers_printMembers (show nestingMembers ms ≤ room by omega) hms.2
        depth depth' rest
      exact readMoreMembers_comma hcomma (readMembers_print hstart hvalue hmore)

end

/-! ## Documents -/

/-- **A printed document is its value**, with nothing behind it. -/
theorem Document.ofText_pretty {v : Json} (hnesting : v.nesting ≤ nestingLimit)
    (hv : v.numbers = []) : Document.ofText v.pretty = ⟨v.source, none⟩ := by
  have hs : skipBlanks v.pretty.toList = v.print 0 ++ [] := by
    simpa [pretty] using skipBlanks_print 0 hv []
  have hfinds := readValue_print hnesting hv hs
  obtain ⟨shorter, hbehind⟩ := hfinds.exists_behind
  rw [Document.ofText]
  simp only [hbehind, hfinds.1]
  rfl

/-- What a decoder makes of a value, it makes of the printed document. -/
theorem ofText_pretty {α : Type} {d : Decoder α} {v : Json} {a : α}
    (hnesting : v.nesting ≤ nestingLimit) (hv : v.numbers = []) (h : d .inText v.source = .ok a) :
    d.ofText v.pretty = .ok a := by
  rw [Decoder.ofText, Document.ofText_pretty hnesting hv, h]

end ControllerCompanion.Json
