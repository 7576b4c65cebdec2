import ControllerCompanion.Storage.FileName
import ControllerCompanion.Unicode.Character
import ControllerCompanion.Text.Quoted

set_option autoImplicit false

/-! # Virtual paths

A virtual path names a file relative to the root of an application: `~/a/b/file`. Its components
are plain names. -/

namespace ControllerCompanion

open Unicode

/-! ## Components -/

/-- A character that cannot stand in a virtual path. -/
def isForbidden (c : Char) : Bool := c == '?' || c == '#' || c == '\\' || isControl c

/-- Whether a text can be a component: it is a name, neither empty nor a step to the same or the
    parent directory, and has no forbidden character. -/
def isComponent (s : String) : Bool :=
  s != "" && s != "." && s != ".." && s.toList.all fun c => c != '/' && !isForbidden c

/-- A virtual path by its components. -/
structure VirtualPath where
  components : List String
  wellFormed : components ≠ [] ∧ components.all isComponent = true
  deriving Repr, DecidableEq

namespace VirtualPath

/-! ## Causes of failure -/

/-- Why a path is no virtual path. -/
inductive Reason where
  | notRelative
  | empty
  | notUtf8
  | noMarker
  | forbidden (c : Char)
  deriving Repr, DecidableEq

/-- A path that is no virtual path, as it is shown. -/
structure Invalid where
  path : String
  reason : Reason
  deriving Repr, DecidableEq

/-- The text of a reason. -/
def Reason.message : Reason → String
  | .notRelative => "path must be relative to the project root"
  | .empty => "path is empty"
  | .notUtf8 => "path is not valid UTF-8"
  | .noMarker => "virtual path must start with '~/'"
  | .forbidden c => "character " ++ Text.quotedChar c ++ " cannot appear in a virtual path"

/-- The text of the complaint. -/
def Invalid.message (e : Invalid) : String :=
  "Malformed view path " ++ e.path ++ ": " ++ e.reason.message

/-! ## Making one -/

/-- Why a name is no component, if it is none. -/
def fault? : FileName → Option Reason
  | .raw _ => some .notUtf8
  | .text name =>
    if name = ".." then some .notRelative
    else (name.toList.find? isForbidden).map .forbidden

/-- The path of a list of names; `shown` is how a complaint shows it. The first name at fault
    gives the reason. -/
def ofNames (shown : String) (names : List FileName) : Except Invalid VirtualPath :=
  match names.findSome? fault? with
  | some reason => .error ⟨shown, reason⟩
  | none =>
    let components := names.filterMap FileName.text?
    if h : components ≠ [] ∧ components.all isComponent = true then .ok ⟨components, h⟩
    else .error ⟨shown, .empty⟩

/-- The names of a path text. Empty ones and steps to the same directory do not count. -/
def namesOf (path : List Char) : List String :=
  ((path.splitOn '/').map String.ofList).filter fun name => name != "" && name != "."

/-- The virtual path of a path relative to the root. -/
def ofRelative (path : String) : Except Invalid VirtualPath :=
  if path.toList.head? = some '/' then .error ⟨path, .notRelative⟩
  else ofNames path ((namesOf path.toList).map .text)

/-- The virtual path that a text spells, with its marker. -/
def ofText (text : String) : Except Invalid VirtualPath :=
  match text.toList with
  | '~' :: '/' :: rest => ofRelative (String.ofList rest)
  | _ => .error ⟨text, .noMarker⟩

/-! ## Views of a path -/

/-- The text of a path. -/
def text (p : VirtualPath) : String := "~/" ++ "/".intercalate p.components

/-- Drops the components that spell the marker again, as long as another one follows. -/
def dropMarkers : List String → List String
  | c :: d :: rest => if c = "~" then dropMarkers (d :: rest) else c :: d :: rest
  | few => few

/-- The segments by which a path is classified: what follows its marker, with every repetition of
    the marker dropped too. -/
def segments (p : VirtualPath) : List String := dropMarkers p.components

end VirtualPath

end ControllerCompanion
