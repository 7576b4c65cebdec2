import ControllerCompanion.Config.Basic
import ControllerCompanion.Storage.Tree
import ControllerCompanion.View.Basic

set_option autoImplicit false

/-! # Finding views

The views of a project are the templates below its folders for pages and views, at the top or in
an area. A directory is searched in the order of the bytes of its names, depth first. -/

namespace ControllerCompanion.Locator

/-! ## Searching a directory -/

/-- Whether one list of bytes comes before another one, or is the same. -/
def bytesLe : List Nat → List Nat → Bool
  | [], _ => true
  | _ :: _, [] => false
  | a :: as, b :: bs => if a < b then true else if b < a then false else bytesLe as bs

/-- Whether an entry of a directory is not looked at: its name begins with a dot, or it is an
    excluded directory. A name that is no text is never excluded. -/
def isExcluded (config : ViewLocatorConfig) (name : FileName) (n : Node) : Bool :=
  match name with
  | .raw _ => false
  | .text s => s.toList.head? == some '.' || n.isDirectory && config.excludedDirectories.contains s

mutual

/-- The files at and below a node, by the names that lead to them from where the search began.
    Links are not followed. -/
def filesBelow (config : ViewLocatorConfig) (path : List FileName) : Node → List (List FileName)
  | .file _ => [path]
  | .link _ => []
  | .directory entries =>
    ((filesOfEntries config path entries).mergeSort fun a b =>
      bytesLe a.1.bytes b.1.bytes).flatMap Prod.snd

/-- The files at and below each entry of a directory. -/
def filesOfEntries (config : ViewLocatorConfig) (path : List FileName) :
    List (FileName × Node) → List (FileName × List (List FileName))
  | [] => []
  | (name, n) :: entries =>
    if isExcluded config name n then filesOfEntries config path entries
    else (name, filesBelow config (path ++ [name]) n) :: filesOfEntries config path entries

end

/-! ## Recognising a template -/

/-- Whether the file with a name is a template that is a view: it has one of the extensions, and
    its stem is not excluded. A stem that is no text counts as empty. -/
def isTemplate (config : ViewLocatorConfig) (name : FileName) : Bool :=
  (name.extension?.map config.isTemplateExtension).getD false
    && !config.excludedFiles.contains (name.stem?.getD "")

/-- What follows the name of an area in a path, or the whole path if it leads into none. -/
def belowArea (config : ViewLocatorConfig) : List FileName → List FileName
  | areas :: area :: rest =>
    if areas = FileName.text config.areasFolder ∧ 1 < rest.length then rest
    else areas :: area :: rest
  | path => path

/-- Whether a path leads below the folder for pages or views, at the top or in an area. -/
def inConventionFolder (config : ViewLocatorConfig) (path : List FileName) : Bool :=
  match belowArea config path with
  | folder :: _ :: _ =>
    folder == FileName.text config.pagesFolder || folder == FileName.text config.viewsFolder
  | _ => false

/-- Splits the segments of a path into its area and what is below. -/
def splitArea (config : ViewLocatorConfig) (segments : List String) :
    Option String × List String :=
  match segments with
  | areas :: area :: rest =>
    if areas = config.areasFolder ∧ 1 < rest.length then (some area, rest) else (none, segments)
  | _ => (none, segments)

/-- Whether a folder is that for pages (`true`) or views (`false`). -/
def folderKind (config : ViewLocatorConfig) (folder : String) : Option Bool :=
  if folder = config.pagesFolder then some true
  else if folder = config.viewsFolder then some false
  else none

/-- The name of the view in a file. -/
def viewName (fileName : String) : String :=
  String.ofList (FileName.splitExtension '.' fileName.toList).1

/-- The page path of a view: its area, its folders and its name, each behind a slash. -/
def pagePathOf (area : Option String) (folders : List String) (name : String) : String :=
  "".intercalate ((area.toList ++ folders ++ [name]).map ("/" ++ ·))

/-- A path as it is shown. -/
def shownPath (path : List FileName) : String := "/".intercalate (path.map FileName.shown)

/-- The view of a template, or none if it does not lie below one of the folders. Only a path below
    them has to be a virtual path. -/
def classify (config : ViewLocatorConfig) (root : String) (path : List FileName) :
    Except VirtualPath.Invalid (Option View) :=
  if !inConventionFolder config path then .ok none
  else
    match VirtualPath.ofNames (shownPath path) path with
    | .error e => .error e
    | .ok relativePath =>
      let (area, rest) := splitArea config relativePath.segments
      match rest with
      | [] => .ok none
      | folder :: below =>
        match folderKind config folder, below.getLast? with
        | some isPage, some fileName =>
          let name := viewName fileName
          .ok (some (.ofPagePath name (root ++ "/" ++ shownPath path) relativePath
            (pagePathOf area below.dropLast name) isPage area))
        | _, _ => .ok none

/-! ## Finding the views -/

/-- The views among some files; the first path at fault is told. -/
def viewsOfFiles (config : ViewLocatorConfig) (root : String) :
    List (List FileName) → Except VirtualPath.Invalid (List View)
  | [] => .ok []
  | path :: paths =>
    if (path.getLast?.map (isTemplate config)).getD false then
      match classify config root path with
      | .error e => .error e
      | .ok view => (viewsOfFiles config root paths).map (view.toList ++ ·)
    else viewsOfFiles config root paths

/-- The views of the project whose root directory has the path text `root`. -/
def views (config : ViewLocatorConfig) (root : String) (n : Node) :
    Except VirtualPath.Invalid (List View) :=
  viewsOfFiles config root (filesBelow config [] n)

end ControllerCompanion.Locator
