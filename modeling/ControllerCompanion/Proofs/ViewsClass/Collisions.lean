import ControllerCompanion.Proofs.ViewsClass.Paths

set_option autoImplicit false

/-! # Warnings are collisions

Names are checked one by one, each against those that are taken so far. No check fails exactly if
all names that the class of a folder would have are distinct (`levelWarnings_eq_nil_iff_nodup`), and
then nothing is left out, so each view is found. -/

namespace ControllerCompanion.Generator

/-! ## The names of one folder -/

/-- All names asked for in a folder: those for the list of its views, if it has any, two for each
    folder in it, and one for each of its views. -/
def nodeNames (views : List View) (folders : List String) : List String :=
  reservedNames views
    ++ folders.flatMap (fun folder => [folderClassName folder, folderFieldName folder])
    ++ views.map viewFieldName

theorem keptFolders_eq_children {n : ViewTree} (h : skippedFolders n = []) :
    keptFolders n = n.children :=
  FirstCome.admitted_eq_self h

theorem leafViews_eq_views {n : ViewTree} (h : skippedViews n = []) : leafViews n = n.views :=
  FirstCome.admitted_eq_self h

theorem flatMap_folderNames (children : List (String × ViewTree)) :
    children.flatMap folderNames
      = (children.map Prod.fst).flatMap
          fun folder => [folderClassName folder, folderFieldName folder] := by
  rw [List.flatMap_map]
  rfl

theorem skippedFolders_eq_nil_iff (n : ViewTree) :
    skippedFolders n = [] ↔ (reservedNames n.views ++ n.children.flatMap folderNames).Nodup :=
  FirstCome.refused_eq_nil_iff nodup_folderNames (nodup_reservedNames n.views) n.children

theorem skippedViews_eq_nil_iff (n : ViewTree) :
    skippedViews n = [] ↔ (takenNames n ++ n.views.map viewFieldName).Nodup := by
  rw [← flatMap_leafNames]
  exact FirstCome.refused_eq_nil_iff nodup_leafNames (nodup_takenNames n) n.views

theorem levelWarnings_eq_nil_iff (path : List String) (n : ViewTree) :
    levelWarnings path n = [] ↔ skippedFolders n = [] ∧ skippedViews n = [] := by
  rw [levelWarnings, List.append_eq_nil_iff, List.map_eq_nil_iff, List.map_eq_nil_iff]

/-- **Nothing is left out of a folder exactly if all names asked for are distinct.** -/
theorem levelWarnings_eq_nil_iff_nodup (path : List String) (n : ViewTree) :
    levelWarnings path n = [] ↔ (nodeNames n.views (n.children.map Prod.fst)).Nodup := by
  rw [levelWarnings_eq_nil_iff, nodeNames, ← flatMap_folderNames]
  constructor
  · rintro ⟨hfolders, hviews⟩
    rw [skippedViews_eq_nil_iff, takenNames, keptFolders_eq_children hfolders] at hviews
    exact hviews
  · intro hnodup
    have hfolders : skippedFolders n = [] :=
      (skippedFolders_eq_nil_iff n).2 (List.nodup_append.1 hnodup).1
    refine ⟨hfolders, (skippedViews_eq_nil_iff n).2 ?_⟩
    rw [takenNames, keptFolders_eq_children hfolders]
    exact hnodup

/-! ## The names of all folders -/

section

variable {views : List View}

/-- The names asked for in the folder at a path. -/
def namesAt (views : List View) (path : List String) : List String :=
  nodeNames (views.filter (path = ·.segments)) (ViewTree.childFolders views path)

theorem namesAt_of_node? {path : List String} {n : ViewTree}
    (h : (ViewTree.ofViews views).node? path = some n) :
    namesAt views path = nodeNames n.views (n.children.map Prod.fst) := by
  rw [namesAt, ViewTree.views_of_node? h, ViewTree.names_of_node? h]

/-- There are no warnings exactly if none is at the path of a kept folder. -/
theorem warnings_eq_nil_iff :
    (viewsClass views).2 = []
      ↔ ∀ path n, keptAt views path = some n → levelWarnings path n = [] := by
  constructor
  · intro hnone path n hkept
    have hpath : (viewsClass views).2.filter (path = ·.path) = levelWarnings path n := by
      rw [filter_path_viewsClass, hkept]
      rfl
    rw [← hpath, hnone]
    rfl
  · intro hlevels
    refine List.eq_nil_iff_forall_not_mem.2 fun w hw => ?_
    have hmem : w ∈ (viewsClass views).2.filter (w.path = ·.path) :=
      List.mem_filter.2 ⟨hw, decide_eq_true rfl⟩
    rw [filter_path_viewsClass] at hmem
    cases hkept : keptAt views w.path with
    | none => simp [hkept] at hmem
    | some n => simp [hkept, hlevels _ n hkept] at hmem

/-- Without warnings, all folders are kept. -/
theorem keptAt_of_node? (hnone : (viewsClass views).2 = []) {path : List String} {n : ViewTree}
    (h : (ViewTree.ofViews views).node? path = some n) : keptAt views path = some n := by
  induction path using List.reverseRecOn generalizing n with
  | nil => exact h
  | append_singleton path name ih =>
      rw [ViewTree.node?_append] at h
      obtain ⟨m, hm, hn⟩ := Option.bind_eq_some_iff.1 h
      rw [ViewTree.node?] at hn
      obtain ⟨child, hchild, hn⟩ := Option.bind_eq_some_iff.1 hn
      obtain rfl := Option.some.inj hn
      have hlevel := (levelWarnings_eq_nil_iff path m).1
        (warnings_eq_nil_iff.1 hnone path m (ih hm))
      -- the folder above is kept, and without warnings it keeps all of its folders
      have hdistinct := (ViewTree.distinctNames_ofViews views).of_node? path hm
      have hmem : (name, child) ∈ keptFolders m := by
        rw [keptFolders_eq_children hlevel.1]
        exact (Keyed.lookup_eq_some_iff_mem hdistinct.here).1 hchild
      exact keptAt_concat (ih hm) hmem

theorem exists_node?_of_isFolder {path : List String} (h : ViewTree.IsFolder views path) :
    ∃ n, (ViewTree.ofViews views).node? path = some n :=
  Option.isSome_iff_exists.1 ((ViewTree.node?_ofViews_isSome_iff views path).2 h)

theorem warnings_eq_nil_iff_nodup :
    (viewsClass views).2 = []
      ↔ ∀ path, ViewTree.IsFolder views path → (namesAt views path).Nodup := by
  constructor
  · intro hnone path hfolder
    obtain ⟨n, hn⟩ := exists_node?_of_isFolder hfolder
    rw [namesAt_of_node? hn, ← levelWarnings_eq_nil_iff_nodup path]
    exact warnings_eq_nil_iff.1 hnone path n (keptAt_of_node? hnone hn)
  · intro hnodup
    refine warnings_eq_nil_iff.2 fun path n hkept => ?_
    rw [levelWarnings_eq_nil_iff_nodup, ← namesAt_of_node? (keptAt_node hkept)]
    exact hnodup path (isFolder_of_keptAt hkept)

theorem found_of_warnings_eq_nil (hnone : (viewsClass views).2 = []) {v : View} (hv : v ∈ views) :
    ∃ c, classAt (viewsClass views).1 v.segments = some c
      ∧ c.field? (viewFieldName v) = some (leafField v) := by
  obtain ⟨n, hn⟩ := exists_node?_of_isFolder (.inr ⟨v, hv, List.prefix_rfl⟩)
  have hkept := keptAt_of_node? hnone hn
  have hlevel := (levelWarnings_eq_nil_iff v.segments n).1
    (warnings_eq_nil_iff.1 hnone v.segments n hkept)
  have hleaf : v ∈ leafViews n := by
    rw [leafViews_eq_views hlevel.2, views_of_keptAt hkept]
    exact List.mem_filter.2 ⟨hv, decide_eq_true rfl⟩
  obtain ⟨className, hclass⟩ := classAt_of_keptAt hkept
  exact ⟨_, hclass, field?_folderClass hleaf⟩

end

/-- **Warnings are collisions.** There are none exactly if in each folder all names asked for are
    distinct, and then each view is found by its segments and its name. -/
theorem no_warnings_iff_nodup_and_found (views : List View) :
    ((viewsClass views).2 = []
      ↔ ∀ path, ViewTree.IsFolder views path → (namesAt views path).Nodup)
      ∧ ((viewsClass views).2 = [] →
        ∀ v ∈ views, ∃ c, classAt (viewsClass views).1 v.segments = some c
          ∧ c.field? (viewFieldName v) = some (leafField v)) :=
  ⟨warnings_eq_nil_iff_nodup, fun hnone _ hv => found_of_warnings_eq_nil hnone hv⟩

/-- Two pages in two folders; one folder and one page have the name of a keyword. -/
def twoPages : List View :=
  [.ofPagePath "Index" "/app/Pages/Admin/Index.cshtml"
      ⟨["Pages", "Admin", "Index.cshtml"], by decide +kernel⟩ "/Admin/Index" true none,
    .ofPagePath "new" "/app/Pages/class/new.cshtml"
      ⟨["Pages", "class", "new.cshtml"], by decide +kernel⟩ "/class/new" true none]

theorem twoPages_found :
    (viewsClass twoPages).2 = []
      ∧ ∀ v ∈ twoPages, ∃ c, classAt (viewsClass twoPages).1 v.segments = some c
        ∧ c.field? (viewFieldName v) = some (leafField v) :=
  ⟨by decide +kernel, (no_warnings_iff_nodup_and_found twoPages).2 (by decide +kernel)⟩

end ControllerCompanion.Generator
