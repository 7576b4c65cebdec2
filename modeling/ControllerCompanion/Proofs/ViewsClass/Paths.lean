import ControllerCompanion.Proofs.ViewsClass.Warnings

set_option autoImplicit false

/-! # The class of all views, path by path

The class and the warnings that are made from a list of views, seen from the paths of the folders:
which folders are kept (`keptAt`), where their classes are found (`classAt_of_keptAt`), what is
warned about at their paths (`filter_path_viewsClass`) and which paths are cut off
(`countP_cutsOff_viewsClass`). -/

namespace ControllerCompanion.Generator

/-- The class of the folder at a path: the fields of its segments lead to it. -/
def classAt (root : ClassDecl) (path : List String) : Option ClassDecl :=
  root.follow (path.map folderFieldName)

/-- The folder at a path in the tree of some views, if it is kept. -/
def keptAt (views : List View) (path : List String) : Option ViewTree :=
  keptNode? (.ofViews views) path

variable {views : List View} {path : List String}

/-! ## Kept folders -/

theorem keptAt_node {n : ViewTree} (h : keptAt views path = some n) :
    (ViewTree.ofViews views).node? path = some n :=
  node?_of_keptNode? (ViewTree.distinctNames_ofViews views) h

theorem isFolder_of_keptAt {n : ViewTree} (h : keptAt views path = some n) :
    ViewTree.IsFolder views path :=
  (ViewTree.node?_ofViews_isSome_iff views path).1 (by rw [keptAt_node h]; rfl)

theorem views_of_keptAt {n : ViewTree} (h : keptAt views path = some n) :
    n.views = views.filter (path = ·.segments) :=
  ViewTree.views_of_node? (keptAt_node h)

theorem keptAt_concat {n : ViewTree} {f : String × ViewTree}
    (h : keptAt views path = some n) (hf : f ∈ keptFolders n) :
    keptAt views (path ++ [f.1]) = some f.2 := by
  have hn : n.DistinctNames := (ViewTree.distinctNames_ofViews views).of_node? path (keptAt_node h)
  have hlookup := (Keyed.lookup_eq_some_iff_mem (nodup_names_keptFolders hn)).2 hf
  rw [keptAt, keptNode?_append]
  unfold keptAt at h
  rw [h, Option.bind_some, keptNode?, hlookup]
  rfl

/-- The class of a kept folder, with the fields that lead to it. -/
theorem classAt_of_keptAt {n : ViewTree} (h : keptAt views path = some n) :
    ∃ className, classAt (viewsClass views).1 path = some (folderClass path className n).1 := by
  have hfollow := follow_folderClass [] viewsClassName (ViewTree.distinctNames_ofViews views) h
  rwa [List.nil_append] at hfollow

/-- From the class of a folder, the field of a kept folder in it leads to the next class. -/
theorem classAt_concat {root : ClassDecl} {className : String} {n : ViewTree}
    {f : String × ViewTree} (hclass : classAt root path = some (folderClass path className n).1)
    (hf : f ∈ keptFolders n) :
    classAt root (path ++ [f.1])
      = some (folderClass (path ++ [f.1]) (folderClassName f.1) f.2).1 := by
  have hinstance := instanceClass?_folderClass path className hf
  unfold classAt at hclass ⊢
  rw [List.map_append, ClassDecl.follow_append, hclass, Option.bind_some, List.map_singleton,
    ClassDecl.follow, hinstance]
  rfl

/-! ## Warnings -/

theorem filter_path_viewsClass (path : List String) :
    (viewsClass views).2.filter (path = ·.path)
      = ((keptAt views path).map (levelWarnings path)).getD [] :=
  filter_path_folderClass [] path viewsClassName (ViewTree.distinctNames_ofViews views)

theorem countP_cutsOff_viewsClass (h : ViewTree.IsFolder views path) :
    (viewsClass views).2.countP (Warning.cutsOff path)
      = if (keptAt views path).isSome then 0 else 1 :=
  countP_cutsOff_folderClass [] path viewsClassName (ViewTree.distinctNames_ofViews views)
    ((ViewTree.node?_ofViews_isSome_iff views path).2 h)

theorem countP_cutsOff_eq_zero_of_keptAt {n : ViewTree} (h : keptAt views path = some n) :
    (viewsClass views).2.countP (Warning.cutsOff path) = 0 := by
  rw [countP_cutsOff_viewsClass (isFolder_of_keptAt h), h]
  rfl

theorem exists_keptAt_of_uncut (hfolder : ViewTree.IsFolder views path)
    (huncut : (viewsClass views).2.countP (Warning.cutsOff path) = 0) :
    ∃ n, keptAt views path = some n := by
  rw [countP_cutsOff_viewsClass hfolder] at huncut
  cases h : keptAt views path with
  | none => simp [h] at huncut
  | some n => exact ⟨n, rfl⟩

end ControllerCompanion.Generator
