import ControllerCompanion.Proofs.ViewsClass.Paths
import Mathlib.Data.List.Dedup

set_option autoImplicit false

/-! # No view is lost

What becomes of the views of a list. A view is a leaf of the class, or was left out of its folder,
or lies below a folder that was left out (`Accounts`); each view is one of these, once
(`exists_accounts`). -/

namespace ControllerCompanion.Generator

/-! ## The three kinds -/

/-- The place of a leaf: the fields of the folders that lead to its class, and its own. -/
def leafPlace (v : View) : List String × String :=
  (v.segments.map folderFieldName, viewFieldName v)

/-- How the views of a list are told apart by the class and the warnings made from them.
    `leaves`, `skipped` and `dropped` list occurrences: a view that comes up twice in `views` comes
    up twice in them too, in one of them or in two. -/
structure Accounts (views : List View) (root : ClassDecl) (warnings : List Warning)
    (leaves skipped dropped : List View) : Prop where
  /-- Each occurrence of a view is of one kind. -/
  all_views : (leaves ++ skipped ++ dropped).Perm views
  /-- The fields of its segments lead from the root to the class of a leaf, which has a field with
      its path. -/
  leaf_found : ∀ v ∈ leaves, ∃ c, classAt root v.segments = some c
    ∧ c.field? (viewFieldName v) = some (leafField v)
  /-- No two leaves have the same field. -/
  leaves_apart : (leaves.map leafPlace).Nodup
  /-- Each skipped view is warned about once, and no other is. -/
  skipped_warned : (warnings.filter (·.isAboutView)).Perm
    (skipped.map fun v => .viewSkipped v.segments v)
  /-- No folder on the way to a leaf or a skipped view is left out. -/
  uncut : ∀ v ∈ leaves ++ skipped, warnings.countP (Warning.cutsOff v.segments) = 0
  /-- One folder on the way to a dropped view is left out. -/
  dropped_cut : ∀ v ∈ dropped, warnings.countP (Warning.cutsOff v.segments) = 1
  /-- Each folder that no warning cuts off has a class. Its fields with a text are the leaves
      there, and its nested classes are the one with the names of the views and those of folders
      that no warning cuts off. -/
  folder_class : ∀ path, ViewTree.IsFolder views path →
    warnings.countP (Warning.cutsOff path) = 0 →
    ∃ c, classAt root path = some c
      ∧ c.stringFields = (leaves.filter (path = ·.segments)).map leafField
      ∧ ∀ d ∈ c.nestedClasses,
        ((∃ v ∈ views, v.segments = path)
          ∧ d = viewNamesClass (views.filter (path = ·.segments)))
        ∨ ∃ folder, ViewTree.IsFolder views (path ++ [folder])
          ∧ warnings.countP (Warning.cutsOff (path ++ [folder])) = 0
          ∧ classAt root (path ++ [folder]) = some d

/-! ## Folder by folder -/

section

variable (views : List View) (path : List String)

/-- The leaves at a path. -/
def leavesAt : List View := ((keptAt views path).map leafViews).getD []

/-- The views that were left out of the folder at a path. -/
def skippedAt : List View := ((keptAt views path).map skippedViews).getD []

/-- The views at a path that leads to no kept folder. -/
def droppedAt : List View :=
  if (keptAt views path).isSome then [] else views.filter (path = ·.segments)

variable {views path}

theorem mem_leavesAt {v : View} :
    v ∈ leavesAt views path ↔ ∃ n, keptAt views path = some n ∧ v ∈ leafViews n := by
  unfold leavesAt
  cases keptAt views path <;> simp

theorem mem_skippedAt {v : View} :
    v ∈ skippedAt views path ↔ ∃ n, keptAt views path = some n ∧ v ∈ skippedViews n := by
  unfold skippedAt
  cases keptAt views path <;> simp

theorem mem_droppedAt {v : View} :
    v ∈ droppedAt views path ↔ keptAt views path = none ∧ v ∈ views ∧ path = v.segments := by
  unfold droppedAt
  cases keptAt views path <;> simp

/-- The views at a path are those of the three kinds. -/
theorem partition_at :
    (leavesAt views path ++ skippedAt views path ++ droppedAt views path).Perm
      (views.filter (path = ·.segments)) := by
  unfold leavesAt skippedAt droppedAt
  cases h : keptAt views path with
  | none => simp
  | some n =>
      have hperm : (leafViews n ++ skippedViews n).Perm n.views :=
        FirstCome.admitted_append_refused_perm (takenNames n) n.views
      rw [← views_of_keptAt h]
      simpa using hperm

end

/-! ## All folders together -/

section

variable {views : List View}

/-- A part of each path: views of the list with these segments. -/
def IsPart (views : List View) (part : List String → List View) : Prop :=
  ∀ path, ∀ v ∈ part path, v ∈ views ∧ v.segments = path

/-- The parts of the paths of all views, one after the other. -/
def gather (views : List View) (part : List String → List View) : List View :=
  (views.map (·.segments)).dedup.flatMap part

theorem isPart_of_partition {part : List String → List View}
    (h : ∀ path, part path ⊆ leavesAt views path ++ skippedAt views path ++ droppedAt views path) :
    IsPart views part := by
  intro path v hv
  have hmem := partition_at.subset (h path hv)
  simp only [List.mem_filter, decide_eq_true_eq] at hmem
  exact ⟨hmem.1, hmem.2.symm⟩

theorem isPart_leavesAt : IsPart views (leavesAt views) :=
  isPart_of_partition fun _ _ hv => List.mem_append_left _ (List.mem_append_left _ hv)

theorem isPart_skippedAt : IsPart views (skippedAt views) :=
  isPart_of_partition fun _ _ hv => List.mem_append_left _ (List.mem_append_right _ hv)

theorem isPart_droppedAt : IsPart views (droppedAt views) :=
  isPart_of_partition fun _ _ hv => List.mem_append_right _ hv

variable {part : List String → List View}

theorem filter_gather (hpart : IsPart views part) (path : List String) :
    (gather views part).filter (path = ·.segments) = part path := by
  rw [gather, Keyed.filter_flatMap (fun p v hv => (hpart p v hv).2) (List.nodup_dedup _)]
  split
  · rfl
  next habsent =>
    refine (List.eq_nil_iff_forall_not_mem.2 fun v hv => habsent ?_).symm
    obtain ⟨hview, hsegments⟩ := hpart path v hv
    exact List.mem_dedup.2 (List.mem_map.2 ⟨v, hview, hsegments⟩)

theorem mem_gather_iff (hpart : IsPart views part) {v : View} :
    v ∈ gather views part ↔ v ∈ part v.segments := by
  rw [← filter_gather hpart v.segments, List.mem_filter]
  simp

end

/-! ## The account of a list -/

section

variable {views : List View}

theorem gather_perm (views : List View) :
    (gather views (leavesAt views) ++ gather views (skippedAt views)
      ++ gather views (droppedAt views)).Perm views := by
  refine Keyed.perm_of_filter_perm View.segments fun path => ?_
  rw [List.filter_append, List.filter_append, filter_gather isPart_leavesAt,
    filter_gather isPart_skippedAt, filter_gather isPart_droppedAt]
  exact partition_at

theorem leafViews_fields_nodup (n : ViewTree) : ((leafViews n).map viewFieldName).Nodup :=
  (List.nodup_append.1 (nodup_takenNames_append n)).2.1

theorem leafPlace_nodup : ((gather views (leavesAt views)).map leafPlace).Nodup := by
  rw [gather, List.map_flatMap, List.nodup_flatMap]
  constructor
  · -- in one folder, the fields of the leaves differ
    intro path _
    unfold leavesAt
    cases keptAt views path with
    | none => exact .nil
    | some n =>
        refine List.Nodup.of_map Prod.snd ?_
        rw [List.map_map]
        exact leafViews_fields_nodup n
  · -- in different folders, the fields that lead there differ
    refine (List.nodup_dedup _).imp fun {path path'} hne place hplace hplace' => hne ?_
    obtain ⟨v, hv, rfl⟩ := List.mem_map.1 hplace
    obtain ⟨v', hv', hsame⟩ := List.mem_map.1 hplace'
    obtain ⟨n, hn, _⟩ := mem_leavesAt.1 hv
    obtain ⟨n', hn', _⟩ := mem_leavesAt.1 hv'
    obtain rfl := (isPart_leavesAt path v hv).2
    obtain rfl := (isPart_leavesAt path' v' hv').2
    have hfields := congrArg Prod.fst hsame
    exact path_eq_of_fields_eq (ViewTree.distinctNames_ofViews views) hn hn' hfields.symm

theorem filter_isAboutView_levelWarnings (path : List String) (n : ViewTree) :
    (levelWarnings path n).filter (·.isAboutView) = (skippedViews n).map (.viewSkipped path) := by
  rw [levelWarnings, List.filter_append]
  simp [List.filter_map, Function.comp_def, Warning.isAboutView]

theorem skipped_perm :
    ((viewsClass views).2.filter (·.isAboutView)).Perm
      ((gather views (skippedAt views)).map fun v => .viewSkipped v.segments v) := by
  refine Keyed.perm_of_filter_perm Warning.path fun path => .of_eq ?_
  have hwarnings : ((viewsClass views).2.filter (·.isAboutView)).filter (path = ·.path)
      = (skippedAt views path).map (.viewSkipped path) := by
    rw [List.filter_comm, filter_path_viewsClass]
    unfold skippedAt
    cases keptAt views path with
    | none => rfl
    | some n => exact filter_isAboutView_levelWarnings path n
  have hskipped : ((gather views (skippedAt views)).map fun v =>
      Warning.viewSkipped v.segments v).filter (path = ·.path)
      = ((gather views (skippedAt views)).filter (path = ·.segments)).map
          fun v => .viewSkipped v.segments v := by
    rw [List.filter_map]
    rfl
  rw [hwarnings, hskipped, filter_gather isPart_skippedAt]
  exact List.map_congr_left fun v hv => by rw [(isPart_skippedAt path v hv).2]

/-- **Every view is accounted for, and nothing else is.** -/
theorem exists_accounts (views : List View) :
    ∃ leaves skipped dropped,
      Accounts views (viewsClass views).1 (viewsClass views).2 leaves skipped dropped := by
  refine ⟨gather views (leavesAt views), gather views (skippedAt views),
    gather views (droppedAt views), gather_perm views, ?leaf_found, leafPlace_nodup,
    skipped_perm, ?uncut, ?dropped_cut, ?folder_class⟩
  case leaf_found =>
    intro v hv
    obtain ⟨n, hkept, hleaf⟩ := mem_leavesAt.1 ((mem_gather_iff isPart_leavesAt).1 hv)
    obtain ⟨className, hclass⟩ := classAt_of_keptAt hkept
    exact ⟨_, hclass, field?_folderClass hleaf⟩
  case uncut =>
    intro v hv
    rcases List.mem_append.1 hv with hleaf | hskipped
    · obtain ⟨n, hkept, _⟩ := mem_leavesAt.1 ((mem_gather_iff isPart_leavesAt).1 hleaf)
      exact countP_cutsOff_eq_zero_of_keptAt hkept
    · obtain ⟨n, hkept, _⟩ := mem_skippedAt.1 ((mem_gather_iff isPart_skippedAt).1 hskipped)
      exact countP_cutsOff_eq_zero_of_keptAt hkept
  case dropped_cut =>
    intro v hv
    obtain ⟨hdropped, hview, _⟩ := mem_droppedAt.1 ((mem_gather_iff isPart_droppedAt).1 hv)
    rw [countP_cutsOff_viewsClass (.inr ⟨v, hview, List.prefix_rfl⟩), hdropped]
    rfl
  case folder_class =>
    intro path hfolder huncut
    obtain ⟨n, hkept⟩ := exists_keptAt_of_uncut hfolder huncut
    obtain ⟨className, hclass⟩ := classAt_of_keptAt hkept
    refine ⟨_, hclass, ?_, fun d hd => ?_⟩
    · rw [stringFields_folderClass, filter_gather isPart_leavesAt, leavesAt, hkept]
      rfl
    · rcases mem_nestedClasses_folderClass hd with ⟨hviews, hd⟩ | ⟨f, hf, hd⟩
      · rw [views_of_keptAt hkept] at hviews hd
        obtain ⟨v, hv⟩ := List.exists_mem_of_ne_nil _ hviews
        simp only [List.mem_filter, decide_eq_true_eq] at hv
        exact .inl ⟨⟨v, hv.1, hv.2.symm⟩, hd⟩
      · have hchild := keptAt_concat hkept hf
        refine .inr ⟨f.1, isFolder_of_keptAt hchild, countP_cutsOff_eq_zero_of_keptAt hchild, ?_⟩
        rw [hd]
        exact classAt_concat hclass hf

end

end ControllerCompanion.Generator
