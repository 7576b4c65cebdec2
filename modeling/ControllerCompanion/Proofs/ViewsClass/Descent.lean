import ControllerCompanion.Proofs.ViewsClass.Folder

set_option autoImplicit false

/-! # Down a path of kept folders

A folder is kept if neither it nor a folder on the way to it is left out. The fields of the folders
on the way lead from the root to the class of a kept folder (`follow_folderClass`), and different
kept folders are led to by different fields (`path_eq_of_fields_eq`). -/

namespace ControllerCompanion.Generator

/-! ## Kept and skipped folders -/

theorem keptFolders_append_skippedFolders_perm (t : ViewTree) :
    (keptFolders t ++ skippedFolders t).Perm t.children :=
  FirstCome.admitted_append_refused_perm _ _

theorem nodup_kept_append_skipped {t : ViewTree} (ht : t.DistinctNames) :
    ((keptFolders t ++ skippedFolders t).map Prod.fst).Nodup :=
  ((keptFolders_append_skippedFolders_perm t).map Prod.fst).nodup_iff.2 ht.here

theorem nodup_names_keptFolders {t : ViewTree} (ht : t.DistinctNames) :
    ((keptFolders t).map Prod.fst).Nodup :=
  ht.here.sublist ((FirstCome.admitted_sublist _ _).map Prod.fst)

/-- A folder of a folder is kept or skipped, and not both. -/
theorem lookup_kept_or_skipped {t child : ViewTree} {name : String} (ht : t.DistinctNames)
    (h : t.children.lookup name = some child) :
    (keptFolders t).lookup name = some child ∧ name ∉ (skippedFolders t).map Prod.fst
      ∨ (keptFolders t).lookup name = none ∧ name ∈ (skippedFolders t).map Prod.fst := by
  have hnodup := nodup_kept_append_skipped ht
  rw [List.map_append] at hnodup
  have hdisjoint := List.disjoint_of_nodup_append hnodup
  have hmem : (name, child) ∈ keptFolders t ++ skippedFolders t :=
    (keptFolders_append_skippedFolders_perm t).mem_iff.2
      ((Keyed.lookup_eq_some_iff_mem ht.here).1 h)
  rcases List.mem_append.1 hmem with hkept | hskipped
  · have hname : name ∈ (keptFolders t).map Prod.fst := List.mem_map.2 ⟨_, hkept, rfl⟩
    exact .inl ⟨(Keyed.lookup_eq_some_iff_mem (nodup_names_keptFolders ht)).2 hkept,
      hdisjoint hname⟩
  · have hname : name ∈ (skippedFolders t).map Prod.fst := List.mem_map.2 ⟨_, hskipped, rfl⟩
    exact .inr ⟨Keyed.lookup_eq_none_of_not_mem fun hkept => hdisjoint hkept hname, hname⟩

theorem lookup_children_of_kept {t child : ViewTree} {name : String} (ht : t.DistinctNames)
    (h : (keptFolders t).lookup name = some child) : t.children.lookup name = some child := by
  have hmem := (Keyed.lookup_eq_some_iff_mem (nodup_names_keptFolders ht)).1 h
  exact (Keyed.lookup_eq_some_iff_mem ht.here).2 ((FirstCome.admitted_sublist _ _).subset hmem)

/-! ## Kept folders by their paths -/

/-- The folder at a path, if it is kept. -/
def keptNode? : ViewTree → List String → Option ViewTree
  | t, [] => some t
  | t, name :: names => ((keptFolders t).lookup name).bind (keptNode? · names)

theorem keptNode?_cons_eq_some_iff {t n : ViewTree} {name : String} {names : List String} :
    keptNode? t (name :: names) = some n
      ↔ ∃ child, (keptFolders t).lookup name = some child ∧ keptNode? child names = some n :=
  Option.bind_eq_some_iff

theorem keptNode?_append (t : ViewTree) (p q : List String) :
    keptNode? t (p ++ q) = (keptNode? t p).bind (keptNode? · q) := by
  induction p generalizing t with
  | nil => rfl
  | cons name names ih =>
      simp only [List.cons_append, keptNode?]
      cases (keptFolders t).lookup name with
      | none => rfl
      | some child => exact ih child

theorem node?_of_keptNode? {t n : ViewTree} {path : List String} (ht : t.DistinctNames)
    (h : keptNode? t path = some n) : t.node? path = some n := by
  induction path generalizing t with
  | nil => exact h
  | cons name names ih =>
      obtain ⟨child, hkept, hn⟩ := keptNode?_cons_eq_some_iff.1 h
      have hchild := lookup_children_of_kept ht hkept
      rw [ViewTree.node?, hchild]
      exact ih (ht.child hchild) hn

/-! ## The way through the fields -/

/-- The field of a kept folder holds an instance of its class. -/
theorem instanceClass?_folderClass (start : List String) (className : String) {name : String}
    {t child : ViewTree} (h : (name, child) ∈ keptFolders t) :
    (folderClass start className t).1.instanceClass? (folderFieldName name)
      = some (folderClass (start ++ [name]) (folderClassName name) child).1 := by
  have hmembers := members_folderClass start className t
  have hname := folderClass_name (start ++ [name]) (folderClassName name) child
  have hmem (m : Member) (hm : m ∈ folderMembers start (name, child)) :
      m ∈ (folderClass start className t).1.members := by
    rw [hmembers]
    exact List.mem_append_left _ (List.mem_append_right _ (List.mem_flatMap.2 ⟨_, h, hm⟩))
  have hclass := hmem _ List.mem_cons_self
  have hfield := hmem _ (List.mem_cons_of_mem _ List.mem_cons_self)
  rw [instanceField, ← hname] at hfield
  exact ClassDecl.instanceClass?_of_mem (nodup_memberNames_folderClass start className t) hclass
    hfield

/-- **The fields of the folders on a path lead to the class of the folder there**, if it is
    kept. -/
theorem follow_folderClass (start : List String) (className : String) {path : List String}
    {t n : ViewTree} (ht : t.DistinctNames) (h : keptNode? t path = some n) :
    ∃ nodeClassName, (folderClass start className t).1.follow (path.map folderFieldName)
      = some (folderClass (start ++ path) nodeClassName n).1 := by
  induction path generalizing t start className with
  | nil =>
      obtain rfl := Option.some.inj h
      exact ⟨className, by rw [List.append_nil]; rfl⟩
  | cons name names ih =>
      obtain ⟨child, hkept, hn⟩ := keptNode?_cons_eq_some_iff.1 h
      have hmem := (Keyed.lookup_eq_some_iff_mem (nodup_names_keptFolders ht)).1 hkept
      have hchild := ht.child (lookup_children_of_kept ht hkept)
      obtain ⟨nodeClassName, hfollow⟩ := ih (start ++ [name]) (folderClassName name) hchild hn
      refine ⟨nodeClassName, ?_⟩
      rw [List.map_cons, ClassDecl.follow, instanceClass?_folderClass start className hmem]
      simpa using hfollow

/-- **No two kept folders are led to by the same fields.** -/
theorem path_eq_of_fields_eq {t n n' : ViewTree} {path path' : List String}
    (ht : t.DistinctNames) (h : keptNode? t path = some n) (h' : keptNode? t path' = some n')
    (hfields : path.map folderFieldName = path'.map folderFieldName) : path = path' := by
  induction path generalizing t path' with
  | nil => exact (List.map_eq_nil_iff.1 hfields.symm).symm
  | cons name names ih =>
      cases path' with
      | nil => cases hfields
      | cons name' names' =>
          obtain ⟨hfield, hrest⟩ := List.cons.inj hfields
          obtain ⟨child, hkept, hn⟩ := keptNode?_cons_eq_some_iff.1 h
          obtain ⟨child', hkept', hn'⟩ := keptNode?_cons_eq_some_iff.1 h'
          have hnodup := nodup_names_keptFolders ht
          have hmem := (Keyed.lookup_eq_some_iff_mem hnodup).1 hkept
          have hmem' := (Keyed.lookup_eq_some_iff_mem hnodup).1 hkept'
          -- kept folders of one folder share no name, so the first fields tell them apart
          have hsame : (name, child) = (name', child') :=
            FirstCome.eq_of_shared_name nodup_folderNames (nodup_reservedNames t.views) hmem hmem'
              (n := folderFieldName name) (by simp [folderNames]) (by simp [folderNames, hfield])
          obtain ⟨rfl, rfl⟩ := Prod.mk.inj hsame
          rw [ih (ht.child (lookup_children_of_kept ht hkept)) hn hn' hrest]

end ControllerCompanion.Generator
