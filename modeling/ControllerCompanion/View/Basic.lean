import ControllerCompanion.View.VirtualPath

set_option autoImplicit false

/-! # Views

A view is a template of a web application: a page, which has a route of its own, or a view that a
controller shows. -/

namespace ControllerCompanion

/-- A view. `segments` are the folders it is filed under. -/
structure View where
  name : String
  filePath : String
  relativePath : VirtualPath
  pagePath : String
  isPage : Bool
  area : Option String
  segments : List String
  deriving Repr, DecidableEq

namespace View

/-- The folders of a page path: its non-empty parts but the last, which is the view itself. -/
def foldersOf (pagePath : String) : List String :=
  (((pagePath.toList.splitOn '/').filter (!·.isEmpty)).dropLast).map String.ofList

/-- The view with the folders of its page path. -/
def ofPagePath (name filePath : String) (relativePath : VirtualPath) (pagePath : String)
    (isPage : Bool) (area : Option String) : View :=
  ⟨name, filePath, relativePath, pagePath, isPage, area, foldersOf pagePath⟩

/-- The path by which generated code names the view: the route of a page, else the path of the
    file. -/
def exposedPath (v : View) : String :=
  if v.isPage then v.pagePath else v.relativePath.text

end View

end ControllerCompanion
