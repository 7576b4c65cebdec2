import ControllerCompanion.Declaration.Builder
import ControllerCompanion.Generator.PartialClass
import ControllerCompanion.Identifier
import ControllerCompanion.View.Tree

set_option autoImplicit false

/-! # Views classes

The class that gives the views of a project their names. A folder is a nested class with a field
that holds an instance of it, and a view is a field with its path. A folder or view whose name is
taken already is left out, with a warning. -/

namespace ControllerCompanion.Generator

/-! ## Warnings -/

/-- What was left out, and in which folder. -/
inductive Warning where
  | folderSkipped (path : List String) (folder : String)
  | viewSkipped (path : List String) (view : View)
  deriving Repr, DecidableEq

namespace Warning

/-- The text of the warning. -/
def message : Warning → String
  | .folderSkipped .. =>
    "Skipping view folder whose name collides with an existing member"
  | .viewSkipped .. => "Skipping view whose name collides with an existing member"

/-- The path of the folder, with a slash before each name. -/
def pathText : Warning → String
  | .folderSkipped path _ => "".intercalate (path.map ("/" ++ ·))
  | .viewSkipped path _ => "".intercalate (path.map ("/" ++ ·))

end Warning

/-! ## Names -/

/-- The class with the names of the views of a folder. -/
def viewNamesClassName : String := "_ViewNamesClass"

/-- The field with an instance of that class. -/
def viewNamesFieldName : String := "ViewNames"

/-- The modifiers of all fields. -/
def readonlyModifiers : List Modifier := [.isPublic, .isReadonly]

/-- The field of a view. -/
def viewFieldName (v : View) : String := Identifier.sanitize v.name

/-- The field of a folder. -/
def folderFieldName (folder : String) : String := Identifier.sanitize folder

/-- The class of a folder. -/
def folderClassName (folder : String) : String :=
  let field := (folderFieldName folder).toList.dropWhile (· == '@')
  "_" ++ String.ofList field ++ "Class"

/-! ## The parts of a class -/

/-- The class with the names of some views. Of several views with one field, the first is
    taken. -/
def viewNamesClass (views : List View) : ClassDecl :=
  views.foldl
    (fun c v =>
      if c.declares (viewFieldName v) then c
      else c.addStringField (viewFieldName v) v.name readonlyModifiers)
    (.empty viewNamesClassName [] [.isPublic])

/-- Adds the names of the views of a folder, if it has any. -/
def addViewNames (c : ClassDecl) (views : List View) : ClassDecl :=
  if views.isEmpty then c
  else
    (c.addClass (viewNamesClass views)).addInstanceField viewNamesFieldName
      (.named viewNamesClassName) readonlyModifiers

/-- Adds the class of a folder, and the field with an instance of it. -/
def addFolder (c : ClassDecl) (folder : String) (nested : ClassDecl) : ClassDecl :=
  (c.addClass nested).addInstanceField (folderFieldName folder)
    (.named (folderClassName folder)) readonlyModifiers

/-- Whether a name of a folder is taken in a class. -/
def folderCollides (c : ClassDecl) (folder : String) : Bool :=
  c.declares (folderFieldName folder) || c.declares (folderClassName folder)

/-- Adds the fields of the views of a folder. -/
def addViews (path : List String) (c : ClassDecl) : List View → ClassDecl × List Warning
  | [] => (c, [])
  | v :: vs =>
    if c.declares (viewFieldName v) then
      let (c, warnings) := addViews path c vs
      (c, .viewSkipped path v :: warnings)
    else addViews path (c.addStringField (viewFieldName v) v.exposedPath readonlyModifiers) vs

/-! ## The class -/

mutual

/-- The class of a folder at a path, and what was left out of it. -/
def folderClass (path : List String) (name : String) : ViewTree → ClassDecl × List Warning
  | .folder views children =>
    let start := addViewNames (.empty name [] [.isPublic]) views
    let (c, folderWarnings) := addFolders path start children
    let (c, viewWarnings) := addViews path c views
    (c, folderWarnings ++ viewWarnings)

/-- Adds the classes of the folders of a folder. -/
def addFolders (path : List String) (c : ClassDecl) :
    List (String × ViewTree) → ClassDecl × List Warning
  | [] => (c, [])
  | (folder, t) :: rest =>
    if folderCollides c folder then
      let (c, warnings) := addFolders path c rest
      (c, .folderSkipped path folder :: warnings)
    else
      let (nested, inner) := folderClass (path ++ [folder]) (folderClassName folder) t
      let (c, warnings) := addFolders path (addFolder c folder nested) rest
      (c, inner ++ warnings)

end

/-- The class of all views, and what was left out of it. -/
def viewsClass (views : List View) : ClassDecl × List Warning :=
  folderClass [] viewsClassName (.ofViews views)

end ControllerCompanion.Generator
