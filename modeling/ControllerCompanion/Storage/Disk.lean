import ControllerCompanion.Storage.Basic

set_option autoImplicit false

/-! # Access to files

What a program that works on a project does with files, as operations of a monad. A storage that
is handed along offers them, and so can a real file system. -/

namespace ControllerCompanion

/-- A node of a file system. `path` is the text that the paths of what lies below it begin with,
    before a slash. -/
structure Found where
  path : String
  node : Node
  deriving Inhabited

/-- Operations on files, by path texts. -/
class Disk (m : Type → Type) where
  /-- The text of a file. -/
  readText : String → m (Except IoError String)
  /-- What stands at a path, with all links of the path followed. -/
  find : String → m (Except IoError Found)
  /-- Makes a directory, and those it lies in. -/
  makeDirectories : String → m (Except IoError Unit)
  /-- Writes the text of the file with a name in a directory. -/
  writeText : (directory name text : String) → m (Except IoError Unit)

namespace Storage

/-- What stands at a path. -/
def find (s : Storage) (path : String) : Except IoError Found :=
  match s.resolve (.ofText path) with
  | .error e => .error e
  | .ok trail => .ok ⟨(Trail.location trail).text, Trail.node s.root trail⟩

/-- Writes the text of the file with a name in a directory. -/
def writeIn (s : Storage) (directory name text : String) : Except IoError Unit × Storage :=
  match s.writeText ((FilePath.ofText directory).child (.text name)) text with
  | .ok s => (.ok (), s)
  | .error e => (.error e, s)

/-- Operations on a storage that is handed along. -/
instance : Disk (StateM Storage) where
  readText path := fun s => (s.readText (.ofText path), s)
  find path := fun s => (s.find path, s)
  makeDirectories path := fun s => s.makeDirectories (.ofText path)
  writeText directory name text := fun s => s.writeIn directory name text

end Storage

end ControllerCompanion
