import ControllerCompanion.Config.Decoding
import ControllerCompanion.Controller.Model
import ControllerCompanion.Declaration.Encoding
import ControllerCompanion.Generator.Namespaces
import ControllerCompanion.Json.Printer
import ControllerCompanion.Storage.Disk
import ControllerCompanion.View.Locator

set_option autoImplicit false

/-! # Projects

What is done with a project on disk: its configuration is loaded, its views are found, and a
document is written for each namespace. -/

namespace ControllerCompanion.Project

/-! ## Causes of failure -/

/-- Why the views of a project are not found. -/
inductive ScanError where
  | path (cause : VirtualPath.Invalid)
  | io (cause : IoError)
  deriving Repr, DecidableEq

/-- Why nothing is generated for a project. -/
inductive Error where
  | io (cause : IoError)
  | json (cause : Decoder.Problem)
  | model (cause : Model.Invalid)
  | config (cause : Generator.InvalidType)
  | views (cause : ScanError)
  | unresolved (cause : Generator.Unresolved)
  deriving Repr, DecidableEq

/-- The cause of a failure to read a model. -/
def Error.ofUnreadable : Model.Unreadable → Error
  | .json p => .json p
  | .invalid e => .model e

/-! ## Documents -/

/-- A document to be written. -/
structure Document where
  name : String
  text : String
  deriving Repr, DecidableEq

/-- The document of a namespace. -/
def Document.ofNamespace (n : NamespaceDecl) : Document :=
  ⟨Generator.documentName n.name, n.encode.pretty⟩

/-- The documents of a model and some views. -/
def documents (config : GeneratorConfig) (model : Model) (views : List View) :
    Except Error (List Document) :=
  match Generator.ofConfig config with
  | .error e => .error (.config e)
  | .ok g =>
    match g.namespaces model.controllers views with
    | .error e => .error (.unresolved e)
    | .ok ns => .ok (ns.map .ofNamespace)

/-! ## Operations on files -/

variable {m : Type → Type} [Monad m] [Disk m]

/-- Hands a result on, or tells its cause of failure. -/
def orElse {ε α : Type} (tell : ε → Error) (r : m (Except ε α)) : ExceptT Error m α :=
  ExceptT.mk do return (← r).mapError tell

/-- The configuration in a file. -/
def loadConfig (path : String) : ExceptT Error m ProjectConfig := do
  let text ← orElse .io (Disk.readText path)
  orElse .json (pure (ProjectConfig.decoder.ofText text))

/-- The model in a file. -/
def loadModel (path : String) : ExceptT Error m Model := do
  let text ← orElse .io (Disk.readText path)
  orElse .ofUnreadable (pure (Model.ofText text))

/-- The views below a directory. -/
def findViews (config : ViewLocatorConfig) (root : String) : m (Except ScanError (List View)) := do
  match ← Disk.find root with
  | .error e => return .error (.io e)
  | .ok found => return (Locator.views config found.path found.node).mapError .path

/-- Writes documents to a directory, up to the first that cannot be written. -/
def writeDocuments (directory : String) : List Document → ExceptT Error m Unit
  | [] => pure ()
  | d :: ds => do
    orElse .io (Disk.writeText directory d.name d.text)
    writeDocuments directory ds

/-- Generates the documents of a project, and gives their number. The model is read first, then
    the views are found; nothing is written before all documents are there. -/
def generate (modelPath root output : String) (config : ProjectConfig) :
    ExceptT Error m Nat := do
  let model ← loadModel modelPath
  let views ← orElse .views (findViews config.views root)
  let ds ← orElse id (pure (documents config.generator model views))
  orElse .io (Disk.makeDirectories output)
  writeDocuments output ds
  return ds.length

end ControllerCompanion.Project
