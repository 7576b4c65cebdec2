import ControllerCompanion.Storage.FileName

set_option autoImplicit false

/-! # File paths

A path is a list of steps from the root or from a working directory. Its text separates them by
slashes; several slashes count as one, and one at the end asks for a directory. -/

namespace ControllerCompanion

/-- A step of a path. -/
inductive Step where
  | here
  | up
  | into (name : FileName)
  deriving Repr, DecidableEq, Inhabited

/-- A path. `length` is the number of bytes of its text. -/
structure FilePath where
  isAbsolute : Bool
  steps : List Step
  asksDirectory : Bool
  length : Nat
  deriving Repr, DecidableEq, Inhabited

namespace FilePath

/-- The step that a part of a path's text stands for. -/
def stepOf (name : String) : Step :=
  if name = "." then .here else if name = ".." then .up else .into (.text name)

/-- The path of a text. -/
def ofText (text : String) : FilePath :=
  let parts := (text.toList.splitOn '/').filter fun part => !part.isEmpty
  { isAbsolute := text.toList.head? == some '/'
    steps := parts.map fun part => stepOf (String.ofList part)
    asksDirectory := !parts.isEmpty && text.toList.getLast? == some '/'
    length := text.utf8ByteSize }

/-- The path of a file in the directory of a path. Its text has a slash before the name, if none
    is there. -/
def child (p : FilePath) (name : FileName) : FilePath :=
  let slash := if p.steps.isEmpty || p.asksDirectory then 0 else 1
  { p with
    steps := p.steps ++ [.into name]
    asksDirectory := false
    length := p.length + slash + name.bytes.length }

/-- The steps by which the path is looked up: one that asks for a directory looks into it. -/
def lookupSteps (p : FilePath) : List Step :=
  if p.asksDirectory then p.steps ++ [.here] else p.steps

/-- Whether the path is the empty text, which names nothing. -/
def isEmpty (p : FilePath) : Bool := p.steps.isEmpty && !p.isAbsolute

/-- The steps without the last one that leads elsewhere, for a path given by its steps backwards.
    Steps that stay do not count, neither behind it nor before it. -/
def parentBackwards (steps : List Step) : List Step :=
  (steps.dropWhile (· == .here)).tail.dropWhile (· == .here)

theorem length_parentBackwards_lt {step : Step} {steps : List Step} :
    (parentBackwards (step :: steps)).length < (step :: steps).length := by
  have behind := (List.dropWhile_suffix (l := step :: steps) (· == Step.here)).length_le
  have before := (List.dropWhile_suffix
    (l := ((step :: steps).dropWhile (· == Step.here)).tail) (· == Step.here)).length_le
  have nonempty : 0 < (step :: steps).length := by simp
  simp only [List.length_tail] at before
  unfold parentBackwards
  omega

end FilePath

end ControllerCompanion
