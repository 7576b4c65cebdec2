import ControllerCompanion.Unicode.Character

set_option autoImplicit false

/-! # Snake case

A name is taken apart into words, which are written in lower case and joined by `_`. A word ends
where a character is neither a letter nor a number, where lower case changes to upper case, and
before the last of several upper-case letters that a lower-case one follows. -/

namespace ControllerCompanion.Text

open Unicode

/-- The case of the last character of a word that has one. -/
inductive CaseSeen where
  | none
  | lower
  | upper
  deriving Repr, DecidableEq

/-- The case seen after one more character. -/
def CaseSeen.after (seen : CaseSeen) (c : Char) : CaseSeen :=
  if isLower c then .lower else if isUpper c then .upper else seen

/-- The words of a run of letters and numbers; `word` is what belongs to the current word so far,
    and `seen` the case seen in it. A character that begins a word behind several upper-case
    letters does not count as seen. -/
def wordsFrom (seen : CaseSeen) (word : List Char) : List Char → List (List Char)
  | [] => []
  | [c] => [word ++ [c]]
  | c :: next :: rest =>
    if seen.after c = .lower ∧ isUpper next then
      (word ++ [c]) :: wordsFrom .none [] (next :: rest)
    else if seen = .upper ∧ isUpper c ∧ isLower next then
      word :: wordsFrom .none [c] (next :: rest)
    else wordsFrom (seen.after c) (word ++ [c]) (next :: rest)

/-- The words of a name. -/
def words (name : List Char) : List (List Char) :=
  (name.splitOnP fun c => !isAlphanumeric c).flatMap (wordsFrom .none [])

/-- A word in lower case. A capital sigma at its end becomes a final sigma. -/
def lowerWord : List Char → List Char
  | [] => []
  | [c] => if c = 'Σ' then ['ς'] else lower c
  | c :: rest => lower c ++ lowerWord rest

/-- A name in snake case. -/
def snakeCase (name : String) : String :=
  String.ofList (['_'].intercalate ((words name.toList).map lowerWord))

end ControllerCompanion.Text
