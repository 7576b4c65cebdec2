import ControllerCompanion.Proofs.Keyed
import ControllerCompanion.View.Tree
import Mathlib.Data.List.Induction
import Mathlib.Data.List.Infix
import Mathlib.Data.List.Nodup

set_option autoImplicit false

/-! # What the tree of some views holds

The tree is built by adding one view after the other (`ViewTree.insert`). Seen from its paths it is
a plain selection: the folder at a path holds the views with exactly these segments, in their
order (`viewsAt_ofViews`), and has a folder for each segment that follows the path in some view, in
the order of the first occurrences (`foldersAt_ofViews`). Nothing else of the list can be seen in
the tree (`ofViews_eq_iff`). -/

namespace ControllerCompanion

namespace ViewTree

/-! ## Going down a path -/

/-- The views that lie in the folder. -/
def views : ViewTree → List View
  | .folder views _ => views

/-- The folders in it, by their names. -/
def children : ViewTree → List (String × ViewTree)
  | .folder _ children => children

/-- The folder at a path. -/
def node? : ViewTree → List String → Option ViewTree
  | t, [] => some t
  | t, name :: names => (t.children.lookup name).bind (·.node? names)

/-- The views that lie in the folder at a path; none if there is no such folder. -/
def viewsAt (t : ViewTree) (path : List String) : List View :=
  ((t.node? path).map views).getD []

/-- The names of the folders in the folder at a path. -/
def foldersAt (t : ViewTree) (path : List String) : List String :=
  ((t.node? path).map fun n => n.children.map Prod.fst).getD []

theorem node?_append (t : ViewTree) (p q : List String) :
    t.node? (p ++ q) = (t.node? p).bind (·.node? q) := by
  induction p generalizing t with
  | nil => rfl
  | cons name names ih =>
      simp only [List.cons_append, node?]
      cases t.children.lookup name with
      | none => rfl
      | some child => exact ih child

theorem node?_concat_isSome_iff (t : ViewTree) (path : List String) (name : String) :
    (t.node? (path ++ [name])).isSome ↔ name ∈ t.foldersAt path := by
  rw [node?_append]
  unfold foldersAt
  cases t.node? path with
  | none => simp
  | some n =>
      have hlookup : (n.node? [name]).isSome = (n.children.lookup name).isSome := by
        rw [node?]
        cases n.children.lookup name <;> rfl
      simp [hlookup]

theorem viewsAt_cons (t : ViewTree) (name : String) (names : List String) :
    t.viewsAt (name :: names)
      = ((t.children.lookup name).map (·.viewsAt names)).getD [] := by
  unfold viewsAt
  rw [node?]
  cases t.children.lookup name <;> rfl

theorem foldersAt_cons (t : ViewTree) (name : String) (names : List String) :
    t.foldersAt (name :: names)
      = ((t.children.lookup name).map (·.foldersAt names)).getD [] := by
  unfold foldersAt
  rw [node?]
  cases t.children.lookup name <;> rfl

@[simp] theorem viewsAt_empty (path : List String) : empty.viewsAt path = [] := by
  cases path <;> rfl

@[simp] theorem foldersAt_empty (path : List String) : empty.foldersAt path = [] := by
  cases path <;> rfl

/-! ## Adding a view -/

theorem lookup_cons_eq_ite (first name : String) (t : ViewTree)
    (rest : List (String × ViewTree)) :
    ((first, t) :: rest).lookup name = if name = first then some t else rest.lookup name := by
  rw [List.lookup_cons]
  by_cases h : name = first
  · simp [h]
  · simp [h, beq_false_of_ne h]

/-- A change concerns the folder of its name alone. -/
theorem lookup_change (name other : String) (f : ViewTree → ViewTree)
    (children : List (String × ViewTree)) :
    (change name f children).lookup other
      = if other = name then some (f ((children.lookup name).getD empty))
        else children.lookup other := by
  induction children with
  | nil => simp only [change, lookup_cons_eq_ite, List.lookup_nil, Option.getD_none]
  | cons child rest ih =>
      obtain ⟨first, t⟩ := child
      rw [change]
      by_cases hfirst : first = name
      · subst hfirst
        simp only [if_true, lookup_cons_eq_ite, Option.getD_some]
        split <;> rfl
      · have hname : ¬name = first := fun h => hfirst h.symm
        simp only [hfirst, hname, if_false, lookup_cons_eq_ite, ih]
        by_cases h : other = first
        · simp [h, hfirst]
        · simp [h]

theorem change_names (name : String) (f : ViewTree → ViewTree)
    (children : List (String × ViewTree)) :
    (change name f children).map Prod.fst
      = children.map Prod.fst ++ if name ∈ children.map Prod.fst then [] else [name] := by
  induction children with
  | nil => simp [change]
  | cons child rest ih =>
      obtain ⟨first, t⟩ := child
      rw [change]
      by_cases hfirst : first = name
      · simp [hfirst]
      · have hname : ¬name = first := fun h => hfirst h.symm
        simp only [hfirst, hname, if_false, List.map_cons, List.mem_cons, false_or, ih,
          List.cons_append]

/-- A view comes up behind the others at its own path, and nowhere else. -/
theorem viewsAt_insert (v : View) (segments path : List String) (t : ViewTree) :
    (insert v segments t).viewsAt path
      = t.viewsAt path ++ if path = segments then [v] else [] := by
  induction segments generalizing t path with
  | nil =>
      obtain ⟨views, children⟩ := t
      cases path with
      | nil => rfl
      | cons name names => simp [insert, viewsAt_cons, ViewTree.children]
  | cons segment segments ih =>
      obtain ⟨views, children⟩ := t
      cases path with
      | nil => simp [insert, viewsAt, node?, ViewTree.views]
      | cons name names =>
          -- below another folder nothing changes; below this one, the rest of the path decides
          simp only [insert, viewsAt_cons, ViewTree.children, lookup_change]
          by_cases h : name = segment
          · subst h
            simp only [if_true, Option.map_some, Option.getD_some, ih, List.cons.injEq, true_and]
            cases children.lookup name <;> simp
          · simp [h]

/-- The segment that follows `path` in `segments`, if `path` is the way there. -/
def nextAfter : List String → List String → Option String
  | [], segment :: _ => some segment
  | name :: names, segment :: segments =>
    if name = segment then nextAfter names segments else none
  | _, [] => none

theorem nextAfter_eq_some_iff {path segments : List String} {name : String} :
    nextAfter path segments = some name ↔ path ++ [name] <+: segments := by
  induction path generalizing segments with
  | nil =>
      cases segments with
      | nil => simp [nextAfter]
      | cons segment segments => simp [nextAfter, eq_comm]
  | cons first rest ih =>
      cases segments with
      | nil => simp [nextAfter]
      | cons segment segments =>
          rw [nextAfter, List.cons_append, List.cons_prefix_cons]
          split
          next h => simp [h, ih]
          next h => simp [h]

/-- The folder that follows a path on the way to a view comes up behind the others, unless it is
    there already. -/
theorem foldersAt_insert (v : View) (segments path : List String) (t : ViewTree) :
    (insert v segments t).foldersAt path
      = t.foldersAt path
        ++ (nextAfter path segments).toList.filter (· ∉ t.foldersAt path) := by
  induction segments generalizing t path with
  | nil =>
      obtain ⟨views, children⟩ := t
      cases path with
      | nil => simp [insert, foldersAt, node?, nextAfter, ViewTree.children]
      | cons name names => simp [insert, foldersAt_cons, nextAfter, ViewTree.children]
  | cons segment segments ih =>
      obtain ⟨views, children⟩ := t
      cases path with
      | nil =>
          show (change segment _ children).map Prod.fst = children.map Prod.fst ++ _
          rw [change_names]
          by_cases h : segment ∈ children.map Prod.fst
          · simp [nextAfter, h, foldersAt, node?, ViewTree.children]
          · simp [nextAfter, h, foldersAt, node?, ViewTree.children]
      | cons name names =>
          simp only [insert, foldersAt_cons, ViewTree.children, lookup_change, nextAfter]
          by_cases h : name = segment
          · subst h
            simp only [if_true, Option.map_some, Option.getD_some, ih]
            cases children.lookup name <;> simp
          · simp [h]

/-! ## The tree of some views -/

theorem ofViews_concat (views : List View) (v : View) :
    ofViews (views ++ [v]) = insert v v.segments (ofViews views) := by
  simp [ofViews]

/-- **The folder at a path holds the views with exactly these segments.** They keep their order. -/
theorem viewsAt_ofViews (views : List View) (path : List String) :
    (ofViews views).viewsAt path = views.filter (path = ·.segments) := by
  induction views using List.reverseRecOn with
  | nil => exact viewsAt_empty path
  | append_singleton views v ih =>
      rw [ofViews_concat, viewsAt_insert, ih, List.filter_append]
      by_cases h : path = v.segments <;> simp [h]

/-- The segments that follow a path in some views, in the order of the first occurrences. -/
def childFolders (views : List View) (path : List String) : List String :=
  (views.filterMap (nextAfter path ·.segments)).eraseDups

theorem mem_childFolders {views : List View} {path : List String} {name : String} :
    name ∈ childFolders views path ↔ ∃ v ∈ views, path ++ [name] <+: v.segments := by
  simp [childFolders, List.mem_eraseDups, nextAfter_eq_some_iff]

theorem nodup_childFolders (views : List View) (path : List String) :
    (childFolders views path).Nodup :=
  Keyed.nodup_eraseDups _

/-- **The folder at a path has a folder for each segment that follows the path in some view.** They
    come in the order of the first occurrences. -/
theorem foldersAt_ofViews (views : List View) (path : List String) :
    (ofViews views).foldersAt path = childFolders views path := by
  unfold childFolders
  induction views using List.reverseRecOn with
  | nil => exact foldersAt_empty path
  | append_singleton views v ih =>
      rw [ofViews_concat, foldersAt_insert, ih, List.filterMap_append]
      cases h : nextAfter path v.segments with
      | none => simp [h]
      | some name =>
          have hv : [v].filterMap (nextAfter path ·.segments) = [name] := by simp [h]
          rw [hv, Keyed.eraseDups_concat]
          generalize views.filterMap (nextAfter path ·.segments) = names
          by_cases hname : name ∈ names <;> simp [hname, List.mem_eraseDups]

/-- A path leads to a folder of some views: it is the way to one of them, or the root. -/
def IsFolder (views : List View) (path : List String) : Prop :=
  path = [] ∨ ∃ v ∈ views, path <+: v.segments

instance (views : List View) (path : List String) : Decidable (IsFolder views path) :=
  inferInstanceAs (Decidable (path = [] ∨ ∃ v ∈ views, path <+: v.segments))

/-- **The tree has a folder at the paths that lead to a view**, and nowhere else. -/
theorem node?_ofViews_isSome_iff (views : List View) (path : List String) :
    ((ofViews views).node? path).isSome ↔ IsFolder views path := by
  rcases List.eq_nil_or_concat path with rfl | ⟨path, name, rfl⟩
  · simp [node?, IsFolder]
  · rw [List.concat_eq_append, node?_concat_isSome_iff, foldersAt_ofViews, mem_childFolders]
    simp [IsFolder]

theorem views_of_node? {views : List View} {path : List String} {n : ViewTree}
    (h : (ofViews views).node? path = some n) : n.views = views.filter (path = ·.segments) := by
  simpa [viewsAt, h] using viewsAt_ofViews views path

theorem names_of_node? {views : List View} {path : List String} {n : ViewTree}
    (h : (ofViews views).node? path = some n) :
    n.children.map Prod.fst = childFolders views path := by
  simpa [foldersAt, h] using foldersAt_ofViews views path

/-- The folders of each folder have distinct names. -/
def DistinctNames (t : ViewTree) : Prop :=
  ∀ path n, t.node? path = some n → (n.children.map Prod.fst).Nodup

theorem distinctNames_ofViews (views : List View) : (ofViews views).DistinctNames :=
  fun path _ h => names_of_node? h ▸ nodup_childFolders views path

namespace DistinctNames

theorem here {t : ViewTree} (h : t.DistinctNames) : (t.children.map Prod.fst).Nodup := h [] t rfl

theorem of_node? {t n : ViewTree} (h : t.DistinctNames) (path : List String)
    (hn : t.node? path = some n) : n.DistinctNames := by
  intro rest n' hn'
  apply h (path ++ rest) n'
  rw [node?_append, hn]
  exact hn'

theorem child {t folder : ViewTree} {name : String} (h : t.DistinctNames)
    (hfolder : t.children.lookup name = some folder) : folder.DistinctNames :=
  h.of_node? [name] (by rw [node?, hfolder]; rfl)

end DistinctNames

/-- No folder below the root is empty. -/
def NoEmptyFolders (t : ViewTree) : Prop :=
  ∀ name names n, t.node? (name :: names) = some n → n.views ≠ [] ∨ n.children ≠ []

/-- A folder is made for a view only: the view lies in it, or on the way there is another one. -/
theorem noEmptyFolders_ofViews (views : List View) : (ofViews views).NoEmptyFolders := by
  intro name names n hn
  have hsome : ((ofViews views).node? (name :: names)).isSome := by simp [hn]
  have hfolder : ∃ v ∈ views, name :: names <+: v.segments :=
    ((node?_ofViews_isSome_iff views _).1 hsome).resolve_left (List.cons_ne_nil _ _)
  obtain ⟨v, hv, rest, hrest⟩ := hfolder
  cases rest with
  | nil =>
      left
      rw [views_of_node? hn]
      refine List.ne_nil_of_mem (List.mem_filter.2 ⟨hv, ?_⟩)
      simpa using hrest
  | cons next rest =>
      right
      have hnext : next ∈ n.children.map Prod.fst := by
        rw [names_of_node? hn, mem_childFolders]
        refine ⟨v, hv, rest, ?_⟩
        rw [← hrest, List.append_assoc]
        rfl
      intro hnil
      rw [hnil] at hnext
      exact absurd hnext List.not_mem_nil

namespace NoEmptyFolders

variable {t folder : ViewTree} {name : String}

theorem below (h : t.NoEmptyFolders) (hfolder : t.children.lookup name = some folder)
    (names : List String) {n : ViewTree} (hn : folder.node? names = some n) :
    n.views ≠ [] ∨ n.children ≠ [] := by
  refine h name names n ?_
  rw [node?, hfolder]
  exact hn

theorem child (h : t.NoEmptyFolders) (hfolder : t.children.lookup name = some folder) :
    folder.NoEmptyFolders :=
  fun next names _ hn => h.below hfolder (next :: names) hn

/-- A folder in a folder is not empty. -/
theorem child_ne_empty (h : t.NoEmptyFolders) (hfolder : t.children.lookup name = some folder) :
    folder.views ≠ [] ∨ folder.children ≠ [] :=
  h.below hfolder [] rfl

end NoEmptyFolders

/-! ## Trees told by their paths -/

/-- Two trees have the same views and the same folders, in the same order, at each path. -/
def Agree (t t' : ViewTree) : Prop :=
  ∀ path, t.viewsAt path = t'.viewsAt path ∧ t.foldersAt path = t'.foldersAt path

theorem Agree.child {t t' folder folder' : ViewTree} {name : String} (h : t.Agree t')
    (hfolder : t.children.lookup name = some folder)
    (hfolder' : t'.children.lookup name = some folder') : folder.Agree folder' := by
  intro path
  have hpath := h (name :: path)
  simpa only [viewsAt_cons, foldersAt_cons, hfolder, hfolder', Option.map_some, Option.getD_some]
    using hpath

mutual

/-- **Trees that agree at each path are the same.** -/
theorem Agree.eq : (t t' : ViewTree) → t.DistinctNames → t.Agree t' → t = t'
  | .folder views children, .folder views' children', hnames, h => by
    have hviews : views = views' := (h []).1
    have hfolders : children.map Prod.fst = children'.map Prod.fst := (h []).2
    have hchildren : children = children' := by
      refine eq_of_names_eq children children' hnames.here hfolders ?_
      intro name t t' ht ht'
      exact ⟨hnames.child ht, h.child ht ht'⟩
    rw [hviews, hchildren]

/-- The folders of a folder are the same if their names are, and the folders of each name agree. -/
theorem eq_of_names_eq : (children children' : List (String × ViewTree)) →
    (children.map Prod.fst).Nodup → children.map Prod.fst = children'.map Prod.fst →
    (∀ name t t', children.lookup name = some t → children'.lookup name = some t' →
      t.DistinctNames ∧ t.Agree t') →
    children = children'
  | [], [], _, _, _ => rfl
  | (name, t) :: rest, (name', t') :: rest', hnodup, hnames, hagree => by
    obtain ⟨rfl, hrest⟩ : name = name' ∧ rest.map Prod.fst = rest'.map Prod.fst :=
      List.cons.inj hnames
    obtain ⟨hname, hnodup⟩ := List.nodup_cons.1 hnodup
    obtain ⟨hdistinct, hsame⟩ := hagree name t t' (by simp) (by simp)
    have ht : t = t' := Agree.eq t t' hdistinct hsame
    have hbehind : rest = rest' := by
      refine eq_of_names_eq rest rest' hnodup hrest ?_
      intro other u u' hu hu'
      -- the first folder has another name, so the others are found behind it
      have hother : other ≠ name := by
        rintro rfl
        rw [Keyed.lookup_eq_none_of_not_mem hname] at hu
        cases hu
      refine hagree other u u' ?_ ?_
      · rwa [lookup_cons_eq_ite, if_neg hother]
      · rwa [lookup_cons_eq_ite, if_neg hother]
    rw [ht, hbehind]

end

/-- Two lists of views have the same views at each path, in the same order, and the folders there
    come up first in the same order. -/
def SameFolders (views views' : List View) : Prop :=
  ∀ path, views.filter (path = ·.segments) = views'.filter (path = ·.segments)
    ∧ childFolders views path = childFolders views' path

/-- **A tree of views is told by what lies at each path.** How the views of different folders follow
one another in the list does not matter. -/
theorem ofViews_eq_iff (views views' : List View) :
    ofViews views = ofViews views' ↔ SameFolders views views' := by
  have hagree : (ofViews views).Agree (ofViews views') ↔ SameFolders views views' := by
    simp only [Agree, SameFolders, viewsAt_ofViews, foldersAt_ofViews]
  rw [← hagree]
  constructor
  · intro h
    rw [h]
    exact fun _ => ⟨rfl, rfl⟩
  · exact Agree.eq _ _ (distinctNames_ofViews views)

/-- Nothing lies at a path that is not the beginning of a path to a view. -/
theorem nothing_at {views : List View} {path : List String}
    (h : ∀ v ∈ views, ¬path <+: v.segments) :
    views.filter (path = ·.segments) = [] ∧ childFolders views path = [] := by
  constructor
  · refine List.filter_eq_nil_iff.2 fun v hv hpath => h v hv ?_
    rw [of_decide_eq_true hpath]
  · refine List.eq_nil_iff_forall_not_mem.2 fun name hname => ?_
    obtain ⟨v, hv, hprefix⟩ := mem_childFolders.1 hname
    exact h v hv ((List.prefix_append path [name]).trans hprefix)

/-- Only the beginnings of the paths to the views need to be looked at. -/
theorem sameFolders_iff (views views' : List View) :
    SameFolders views views' ↔ ∀ path ∈ (views ++ views').flatMap (·.segments.inits),
      views.filter (path = ·.segments) = views'.filter (path = ·.segments)
        ∧ childFolders views path = childFolders views' path := by
  refine ⟨fun h path _ => h path, fun h path => ?_⟩
  by_cases hpath : path ∈ (views ++ views').flatMap (·.segments.inits)
  · exact h path hpath
  · have hnone : ∀ v ∈ views ++ views', ¬path <+: v.segments := by
      simpa only [List.mem_flatMap, List.mem_inits, not_exists, not_and] using hpath
    obtain ⟨hviews, hviews'⟩ := List.forall_mem_append.1 hnone
    obtain ⟨hhere, hfolders⟩ := nothing_at hviews
    obtain ⟨hhere', hfolders'⟩ := nothing_at hviews'
    rw [hhere, hhere', hfolders, hfolders']
    exact ⟨rfl, rfl⟩

instance (views views' : List View) : Decidable (SameFolders views views') :=
  decidable_of_iff' _ (sameFolders_iff views views')

end ViewTree

end ControllerCompanion
