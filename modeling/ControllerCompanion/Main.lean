import ControllerCompanion.CommandLine

set_option autoImplicit false

/-! # The program

Runs the command line on the files of the machine. -/

namespace ControllerCompanion.Program

/-- The cause of a failed operation on files. -/
def causeOf : IO.Error → IoError
  | .noFileOrDirectory .. => .notFound
  | .noSuchThing .. => .notFound
  | .inappropriateType .. => .notADirectory
  | .alreadyExists .. => .alreadyExists
  | .invalidArgument .. => .invalidInput
  | _ => .other

/-- The result of an operation on files. -/
def attempt {α : Type} (act : IO α) : IO (Except IoError α) := do
  match ← act.toBaseIO with
  | .ok a => return .ok a
  | .error e => return .error (causeOf e)

/-- What stands at a path, without the texts of files. -/
partial def readNode (path : String) : IO Node := do
  let real ← IO.FS.realPath path
  let entries ← real.readDir
  let nodes ← entries.toList.mapM fun entry => do
    let metadata ← entry.path.symlinkMetadata
    let node ← match metadata.type with
      | .dir => readNode entry.path.toString
      | .file => pure (.file "")
      | _ => pure (.link "")
    return (FileName.text entry.fileName, node)
  return .directory nodes

/-- What stands at a path, with all links of the path followed. -/
def findNode (path : String) : IO Found := do
  let real ← IO.FS.realPath path
  let node ← if ← real.isDir then readNode path else do
    let _ ← real.metadata
    pure (.file "")
  return ⟨if real.toString = "/" then "" else real.toString, node⟩

instance : Disk IO where
  readText path := attempt (IO.FS.readFile path)
  find path := attempt (findNode path)
  makeDirectories path := attempt (IO.FS.createDirAll path)
  writeText directory name text := attempt (IO.FS.writeFile (directory ++ "/" ++ name) text)

end ControllerCompanion.Program

/-- Runs the program. -/
def main (args : List String) : IO UInt32 := do
  let outcome ← ControllerCompanion.CommandLine.run args
  IO.print outcome.output
  match outcome.complaint with
  | some complaint => IO.eprintln complaint
  | none => pure ()
  return outcome.exitCode.toUInt32
