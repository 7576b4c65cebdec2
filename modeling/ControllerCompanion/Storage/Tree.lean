import ControllerCompanion.Storage.FilePath

set_option autoImplicit false

/-! # Directory trees

What a file system holds: files with texts, symbolic links, and directories. A location is the
list of names that leads to a node without following links.

A file holds a text, so a file whose bytes are no UTF-8 cannot be expressed. A node has no identity
beside its location, so two locations cannot share a file: there are no hard links, and what is
written at one location changes nothing at another one. -/

namespace ControllerCompanion

/-- A node of a file system. -/
inductive Node where
  | file (text : String)
  | link (target : String)
  | directory (entries : List (FileName × Node))
  deriving Inhabited

/-- The names that lead to a node. -/
abbrev Location := List FileName

/-- A way through a tree: the names that lead from its root to a node, the last one first, each
    with the node that it leads to. -/
abbrev Trail := List (FileName × Node)

namespace Node

/-- Whether the node is a directory. -/
def isDirectory : Node → Bool
  | .directory _ => true
  | _ => false

/-- The node at a location. -/
def get? : Node → Location → Option Node
  | n, [] => some n
  | .directory entries, name :: rest => (entries.lookup name).bind fun n => get? n rest
  | _, _ :: _ => none
  termination_by structural _ location => location

/-- Gives a name in a list of entries a node, in place of the one it has, or as a new entry. -/
def setEntry (name : FileName) (new : Node) : List (FileName × Node) → List (FileName × Node)
  | [] => [(name, new)]
  | (other, n) :: rest =>
    if other = name then (other, new) :: rest else (other, n) :: setEntry name new rest

/-- Puts a node at a location whose directory exists. -/
def put (new : Node) : Node → Location → Node
  | _, [] => new
  | .directory entries, name :: rest =>
    .directory (setEntry name (put new ((entries.lookup name).getD (.directory [])) rest) entries)
  | n, _ :: _ => n
  termination_by structural _ location => location

end Node

/-- The text of a location; the root's is empty. -/
def Location.text (location : Location) : String :=
  "".intercalate (location.map fun name => "/" ++ name.shown)

namespace Trail

/-- The node that a trail leads to. -/
def node (root : Node) : Trail → Node
  | [] => root
  | (_, n) :: _ => n

/-- The location that a trail leads to. -/
def location (trail : Trail) : Location := (trail.map Prod.fst).reverse

end Trail

end ControllerCompanion
