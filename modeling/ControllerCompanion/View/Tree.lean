import ControllerCompanion.View.Basic

set_option autoImplicit false

/-! # Views by folders

The views of a project as a tree of folders. The views of a folder, and the folders in it, keep
the order in which they first come up. -/

namespace ControllerCompanion

/-- A folder: the views that lie in it, and the folders by their names. -/
inductive ViewTree where
  | folder (views : List View) (children : List (String × ViewTree))
  deriving Inhabited

namespace ViewTree

/-- A folder with nothing in it. -/
def empty : ViewTree := .folder [] []

/-- Changes the folder of a name, or adds one behind the others. -/
def change (name : String) (f : ViewTree → ViewTree) :
    List (String × ViewTree) → List (String × ViewTree)
  | [] => [(name, f empty)]
  | (other, t) :: rest =>
    if other = name then (other, f t) :: rest else (other, t) :: change name f rest

/-- Adds a view under a path of folders. -/
def insert (v : View) : List String → ViewTree → ViewTree
  | [], .folder views children => .folder (views ++ [v]) children
  | name :: names, .folder views children =>
    .folder views (change name (insert v names) children)

/-- The tree of some views, each under its folders. -/
def ofViews (views : List View) : ViewTree :=
  views.foldl (fun t v => insert v v.segments t) empty

end ViewTree

end ControllerCompanion
