import ControllerCompanion.Project
import ControllerCompanion.View.Codec

set_option autoImplicit false

/-! # The command line

What the arguments of the program ask for, and what it does: it generates the documents of a
project, or lists the project's views. -/

namespace ControllerCompanion.CommandLine

/-! ## Arguments -/

/-- What the arguments ask for. -/
inductive Request where
  | version
  | help
  | generate (model root output : String) (config : Option String)
  | views (root : String) (config : Option String)
  deriving Repr, DecidableEq

/-- An option that takes a value. -/
structure Setting where
  short : Char
  long : String
  deriving Repr, DecidableEq

/-- The file with the model. -/
def modelSetting : Setting := ⟨'m', "model"⟩

/-- The root directory of the project. -/
def rootSetting : Setting := ⟨'p', "project-root"⟩

/-- The directory for the documents. -/
def outputSetting : Setting := ⟨'o', "output"⟩

/-- The file with the configuration. -/
def configSetting : Setting := ⟨'c', "config"⟩

/-- What one argument of a command is. A value may stand in the same argument. -/
inductive Argument where
  | setting (s : Setting) (value : Option String)
  | jsonLogs
  | help
  | endOfOptions
  | unknown
  deriving Repr, DecidableEq

/-- The value behind a sign of equality, if there is one. -/
def afterEquals : List Char → Option String
  | '=' :: value => some (String.ofList value)
  | _ => none

/-- Reads an argument of a command with some settings. -/
def readArgument (settings : List Setting) (text : String) : Argument :=
  match text.toList with
  | ['-', '-'] => .endOfOptions
  | '-' :: '-' :: name =>
    if name = "json-logs".toList then .jsonLogs
    else if name = "help".toList then .help
    else
      let long := name.takeWhile (· != '=')
      match settings.find? fun s => s.long.toList == long with
      | some s => .setting s (afterEquals (name.drop long.length))
      | none => .unknown
  | '-' :: 'h' :: _ => .help
  | '-' :: short :: value =>
    match settings.find? fun s => s.short == short with
    | some s =>
      .setting s
        (if value = [] then none else some ((afterEquals value).getD (String.ofList value)))
    | none => .unknown
  | _ => .unknown

/-- Whether an argument cannot be the value of the one before it: it begins with a dash, and is
    more than that. -/
def looksLikeOption (text : String) : Bool :=
  match text.toList with
  | '-' :: _ :: _ => true
  | _ => false

/-- What the arguments of a command give: the values of its settings, or a request for help. -/
inductive Given where
  | values (values : List (Setting × String))
  | help

/-- Reads the arguments of a command. Each setting has one value that is not empty, each option
    stands once, and nothing else may follow. -/
def readArguments (settings : List Setting) (jsonLogs : Bool)
    (values : List (Setting × String)) : List String → Option Given
  | [] => some (.values values)
  | text :: rest =>
    match readArgument settings text with
    | .help => some .help
    | .endOfOptions => if rest = [] then some (.values values) else none
    | .jsonLogs => if jsonLogs then none else readArguments settings true values rest
    | .unknown => none
    | .setting s (some value) =>
      if value = "" ∨ (values.map Prod.fst).contains s then none
      else readArguments settings jsonLogs ((s, value) :: values) rest
    | .setting s none =>
      match rest with
      | [] => none
      | value :: rest =>
        if value = "" ∨ looksLikeOption value ∨ (values.map Prod.fst).contains s then none
        else readArguments settings jsonLogs ((s, value) :: values) rest

/-- The request for a generation. -/
def generateRequest (args : List String) : Option Request :=
  match readArguments [modelSetting, rootSetting, outputSetting, configSetting] false [] args with
  | some (.values values) => do
    let model ← values.lookup modelSetting
    let root ← values.lookup rootSetting
    let output ← values.lookup outputSetting
    return .generate model root output (values.lookup configSetting)
  | some .help => some .help
  | none => none

/-- The request for a list of views. -/
def viewsRequest (args : List String) : Option Request :=
  match readArguments [rootSetting, configSetting] false [] args with
  | some (.values values) => do
    let root ← values.lookup rootSetting
    return .views root (values.lookup configSetting)
  | some .help => some .help
  | none => none

/-- The commands, also that for help. -/
def commands : List String := ["generate", "views", "help"]

/-- Whether help can be given on what these arguments name: nothing in particular, or one command.
    No command has commands of its own. -/
def isHelpTopic : List String → Bool
  | [] => true
  | [name] => commands.contains name
  | _ => false

/-- Reads all arguments; `none` if they make no sense. -/
def readRequest (jsonLogs : Bool) : List String → Option Request
  | [] => none
  | text :: rest =>
    if text = "generate" then generateRequest rest
    else if text = "views" then viewsRequest rest
    else if text = "help" then (if isHelpTopic rest then some .help else none)
    else
      match text.toList with
      | '-' :: '-' :: name =>
        if name = "json-logs".toList ∧ !jsonLogs then readRequest true rest
        else if name = "version".toList then some .version
        else if name = "help".toList then some .help
        else none
      | '-' :: 'V' :: _ => some .version
      | '-' :: 'h' :: _ => some .help
      | _ => none

/-! ## Running -/

/-- How a run ends: its exit code, what it prints, and its complaint. -/
structure Outcome where
  exitCode : Nat
  output : String
  complaint : Option String
  deriving Repr, DecidableEq

/-- A run that succeeds. -/
def succeed (output : String) : Outcome := ⟨0, output, none⟩

/-- A run that fails. -/
def fail (complaint : String) : Outcome := ⟨1, "", some ("Error: " ++ complaint)⟩

/-- The name and version of the program. -/
def versionText : String := "r4mvc 0.1.0\n"

/-- How the program is used. -/
def helpText : String :=
  "Generate strongly-typed companions for MVC controllers and views\n\n"
    ++ "Usage: r4mvc generate --model <MODEL> --project-root <ROOT> --output <OUTPUT>"
    ++ " [--config <CONFIG>]\n"
    ++ "       r4mvc views --project-root <ROOT> [--config <CONFIG>]\n"

variable {m : Type → Type} [Monad m] [Disk m]

/-- Goes on with the configuration in a file, or with the default one. -/
def withConfig (path : Option String) (go : ProjectConfig → m Outcome) : m Outcome := do
  match path with
  | none => go {}
  | some path =>
    match ← (Project.loadConfig path).run with
    | .error _ => return fail ("Failed to load configuration from " ++ path)
    | .ok config => go config

/-- Does what is asked for. -/
def perform : Request → m Outcome
  | .version => return succeed versionText
  | .help => return succeed helpText
  | .generate model root output config =>
    withConfig config fun config => do
      match ← (Project.generate model root output config).run with
      | .error _ => return fail ("Failed to generate companions for " ++ root)
      | .ok _ => return succeed ""
  | .views root config =>
    withConfig config fun config => do
      match ← Project.findViews config.views root with
      | .error _ => return fail ("Failed to scan views under " ++ root)
      | .ok views => return succeed ((Json.array (views.map View.encode)).pretty ++ "\n")

/-- Runs the program with some arguments. -/
def run (args : List String) : m Outcome :=
  match readRequest false args with
  | none => return ⟨2, "", some "Usage error"⟩
  | some request => perform request

end ControllerCompanion.CommandLine
