import ControllerCompanion.Proofs.ViewsClass.Descent

set_option autoImplicit false

/-! # Where the warnings come from

The warnings of a whole tree, folder by folder: those at the path of a kept folder are the ones
about the folders and views that were left out of it (`filter_path_folderClass`), and nothing is
said below a folder that was left out. A folder on a path is warned about once if the path is cut
off by it, and never if the path leads to a kept folder (`countP_cutsOff_folderClass`). -/

namespace ControllerCompanion.Generator

namespace Warning

/-- The folder in which something was left out. -/
def path : Warning → List String
  | .folderSkipped path _ => path
  | .viewSkipped path _ => path

@[simp] theorem path_folderSkipped (path : List String) (folder : String) :
    (folderSkipped path folder).path = path := rfl

@[simp] theorem path_viewSkipped (path : List String) (v : View) :
    (viewSkipped path v).path = path := rfl

/-- A folder on a path was left out. -/
def cutsOff (segments : List String) : Warning → Bool
  | .folderSkipped path folder => decide (path ++ [folder] <+: segments)
  | .viewSkipped .. => false

/-- A view was left out. -/
def isAboutView : Warning → Bool
  | .folderSkipped .. => false
  | .viewSkipped .. => true

end Warning

/-! ## Warnings stay below their folder -/

mutual

theorem prefix_path_of_mem_folderClass : (t : ViewTree) → {path : List String} →
    {className : String} → {w : Warning} → w ∈ (folderClass path className t).2 →
    path <+: w.path
  | .folder views children, path, className, w, h => by
    rw [folderClass_snd] at h
    rcases List.mem_append.1 h with hfolder | hview
    · exact prefix_path_of_mem_addFolders children hfolder
    · obtain ⟨v, _, rfl⟩ := List.mem_map.1 hview
      exact List.prefix_rfl

theorem prefix_path_of_mem_addFolders : (children : List (String × ViewTree)) →
    {path : List String} → {c : ClassDecl} → {w : Warning} →
    w ∈ (addFolders path c children).2 → path <+: w.path
  | [], path, c, w, h => by
    simp [addFolders] at h
  | (folder, t) :: rest, path, c, w, h => by
    rw [addFolders_cons] at h
    split at h
    · rcases List.mem_cons.1 h with rfl | hrest
      · exact List.prefix_rfl
      · exact prefix_path_of_mem_addFolders rest hrest
    · rcases List.mem_append.1 h with hinner | hrest
      · have hbelow := prefix_path_of_mem_folderClass t hinner
        exact (List.prefix_append path [folder]).trans hbelow
      · exact prefix_path_of_mem_addFolders rest hrest

end

/-! ## The warnings at the path of a folder -/

/-- What is said about the folders and views of one folder. -/
def levelWarnings (path : List String) (t : ViewTree) : List Warning :=
  (skippedFolders t).map (fun f => .folderSkipped path f.1)
    ++ (skippedViews t).map (.viewSkipped path)

theorem ne_of_extends {path q : List String} {name : String}
    (h : path ++ [name] <+: q) : q ≠ path := by
  rintro rfl
  have hlength := h.length_le
  simp only [List.length_append, List.length_singleton] at hlength
  omega

theorem filter_path_addFolders (path : List String) (c : ClassDecl)
    (children : List (String × ViewTree)) :
    (addFolders path c children).2.filter (path = ·.path)
      = (FirstCome.refused folderNames c.memberNames children).map
          (fun f => .folderSkipped path f.1) := by
  induction children generalizing c with
  | nil => simp [addFolders, FirstCome.refused]
  | cons f rest ih =>
      rw [addFolders_cons, FirstCome.refused]
      split
      · simp [ih]
      · -- what is said within the folder is said at a longer path
        have hinner : (folderClass (path ++ [f.1]) (folderClassName f.1) f.2).2.filter
            (path = ·.path) = [] := by
          refine List.filter_eq_nil_iff.2 fun w hw => ?_
          have hbelow := prefix_path_of_mem_folderClass f.2 hw
          simpa using (ne_of_extends hbelow).symm
        rw [List.filter_append, hinner, ih, ClassDecl.memberNames_addMembers,
          folderMembers_names]
        rfl

theorem filter_path_here (path : List String) (className : String) (t : ViewTree) :
    (folderClass path className t).2.filter (path = ·.path) = levelWarnings path t := by
  have hviews : ((skippedViews t).map (Warning.viewSkipped path)).filter (path = ·.path)
      = (skippedViews t).map (.viewSkipped path) := by
    refine List.filter_eq_self.2 fun w hw => ?_
    obtain ⟨v, _, rfl⟩ := List.mem_map.1 hw
    exact decide_eq_true rfl
  rw [folderClass_snd, List.filter_append, hviews, filter_path_addFolders,
    memberNames_folderStart]
  rfl

/-! ## The warnings of one of the folders in a folder -/

/-- A property of warnings that only holds of those about a folder `name` at `path`, or from within
    it. -/
structure Concerns (P : Warning → Bool) (path : List String) (name : String) : Prop where
  folder : ∀ other, other ≠ name → P (.folderSkipped path other) = false
  view : ∀ v, P (.viewSkipped path v) = false
  below : ∀ w other, other ≠ name → path ++ [other] <+: w.path → P w = false

theorem filter_addFolders {P : Warning → Bool} {path : List String} {name : String}
    (hP : Concerns P path name) (c : ClassDecl) {children : List (String × ViewTree)}
    (hnodup : (children.map Prod.fst).Nodup) :
    (addFolders path c children).2.filter P
      = (if name ∈ (FirstCome.refused folderNames c.memberNames children).map Prod.fst then
          [Warning.folderSkipped path name].filter P else [])
        ++ (((FirstCome.admitted folderNames c.memberNames children).lookup name).map fun t =>
          (folderClass (path ++ [name]) (folderClassName name) t).2.filter P).getD [] := by
  induction children generalizing c with
  | nil => simp [addFolders, FirstCome.refused, FirstCome.admitted]
  | cons f rest ih =>
      obtain ⟨folder, t⟩ := f
      obtain ⟨hfolder, hrest⟩ := List.nodup_cons.1 hnodup
      -- the folders after one of that name have other names
      have habsent (taken : List String) (h : folder = name) :
          name ∉ (FirstCome.refused folderNames taken rest).map Prod.fst
            ∧ (FirstCome.admitted folderNames taken rest).lookup name = none := by
        subst h
        refine ⟨fun hmem => hfolder (((FirstCome.refused_sublist _ _).map _).subset hmem), ?_⟩
        exact Keyed.lookup_eq_none_of_not_mem fun hmem =>
          hfolder (((FirstCome.admitted_sublist _ _).map _).subset hmem)
      rw [addFolders_cons, FirstCome.refused, FirstCome.admitted]
      split
      · by_cases h : folder = name
        · have hnone := habsent c.memberNames h
          rw [List.filter_cons, ih c hrest, if_neg hnone.1, hnone.2]
          subst h
          cases hw : P (.folderSkipped path folder) <;> simp [hw, hnone]
        · have hmem (fs : List (String × ViewTree)) :
              name ∈ ((folder, t) :: fs).map Prod.fst ↔ name ∈ fs.map Prod.fst := by
            simp [Ne.symm h]
          rw [List.filter_cons, ih c hrest, hP.folder folder h]
          simp only [hmem, Bool.false_eq_true, if_false]
      · rw [List.filter_append, ih _ hrest, ClassDecl.memberNames_addMembers, folderMembers_names]
        by_cases h : folder = name
        · have hnone := habsent (c.memberNames ++ folderNames (folder, t)) h
          rw [if_neg hnone.1, hnone.2]
          subst h
          simp
        · have hinner : (folderClass (path ++ [folder]) (folderClassName folder) t).2.filter P
              = [] :=
            List.filter_eq_nil_iff.2 fun w hw => by
              simp [hP.below w folder h (prefix_path_of_mem_folderClass t hw)]
          rw [hinner, ViewTree.lookup_cons_eq_ite, if_neg (Ne.symm h)]
          rfl

theorem filter_folderClass {P : Warning → Bool} {path : List String} {name : String}
    (hP : Concerns P path name) (className : String) {t : ViewTree} (ht : t.DistinctNames) :
    (folderClass path className t).2.filter P
      = (if name ∈ (skippedFolders t).map Prod.fst then
          [Warning.folderSkipped path name].filter P else [])
        ++ (((keptFolders t).lookup name).map fun child =>
          (folderClass (path ++ [name]) (folderClassName name) child).2.filter P).getD [] := by
  have hviews : ((skippedViews t).map (Warning.viewSkipped path)).filter P = [] := by
    refine List.filter_eq_nil_iff.2 fun w hw => ?_
    obtain ⟨v, _, rfl⟩ := List.mem_map.1 hw
    simp [hP.view v]
  rw [folderClass_snd, List.filter_append, hviews, List.append_nil, filter_addFolders hP _ ht.here,
    memberNames_folderStart]
  rfl

/-! ## The warnings of a tree -/

theorem concerns_path (path names : List String) (name : String) :
    Concerns (path ++ name :: names = ·.path) path name where
  folder other _ := by simp
  view v := by simp
  below w other h hbelow := by
    refine decide_eq_false fun heq => h ?_
    rw [← heq, List.prefix_append_right_inj, List.cons_prefix_cons] at hbelow
    exact hbelow.1

/-- **What is said at a path is what was left out of the folder there**, if the folder is kept.
    Nothing is said at other paths. -/
theorem filter_path_folderClass (start path : List String) (className : String) {t : ViewTree}
    (ht : t.DistinctNames) :
    (folderClass start className t).2.filter (start ++ path = ·.path)
      = ((keptNode? t path).map (levelWarnings (start ++ path))).getD [] := by
  induction path generalizing t start className with
  | nil =>
      rw [List.append_nil]
      exact filter_path_here start className t
  | cons name names ih =>
      rw [filter_folderClass (concerns_path start names name) className ht]
      have hself : [Warning.folderSkipped start name].filter (start ++ name :: names = ·.path)
          = [] := by
        simp
      rw [hself, ite_self, List.nil_append, keptNode?]
      cases hkept : (keptFolders t).lookup name with
      | none => rfl
      | some child =>
          have hchild := ht.child (lookup_children_of_kept ht hkept)
          have hinner := ih (start ++ [name]) (folderClassName name) hchild
          rw [List.append_assoc, List.singleton_append] at hinner
          exact hinner

theorem concerns_cutsOff (path names : List String) (name : String) :
    Concerns (Warning.cutsOff (path ++ name :: names)) path name where
  folder other h := by
    refine decide_eq_false fun hprefix => h ?_
    rw [List.prefix_append_right_inj, List.cons_prefix_cons] at hprefix
    exact hprefix.1
  view v := rfl
  below w other h hbelow := by
    cases w with
    | viewSkipped => rfl
    | folderSkipped path' folder =>
        refine decide_eq_false fun hprefix => h ?_
        have hlong := (hbelow.trans (List.prefix_append path' [folder])).trans hprefix
        rw [List.prefix_append_right_inj, List.cons_prefix_cons] at hlong
        exact hlong.1

/-- **A path to a folder is cut off once, unless the folder is kept.** -/
theorem countP_cutsOff_folderClass (start path : List String) (className : String) {t : ViewTree}
    (ht : t.DistinctNames) (hnode : (t.node? path).isSome) :
    (folderClass start className t).2.countP (Warning.cutsOff (start ++ path))
      = if (keptNode? t path).isSome then 0 else 1 := by
  induction path generalizing t start className with
  | nil =>
      rw [List.append_nil, keptNode?, Option.isSome_some, if_pos rfl, List.countP_eq_zero]
      intro w hw
      have hpath := prefix_path_of_mem_folderClass t hw
      cases w with
      | viewSkipped => simp [Warning.cutsOff]
      | folderSkipped path folder =>
          intro hcut
          have hlong : path ++ [folder] <+: start := of_decide_eq_true hcut
          exact ne_of_extends (hlong.trans hpath) rfl
  | cons name names ih =>
      rw [List.countP_eq_length_filter, filter_folderClass (concerns_cutsOff start names name)
        className ht, keptNode?]
      have hself : [Warning.folderSkipped start name].filter
          (Warning.cutsOff (start ++ name :: names)) = [.folderSkipped start name] := by
        simp [Warning.cutsOff]
      obtain ⟨child, hchild⟩ : ∃ child, t.children.lookup name = some child := by
        rw [ViewTree.node?] at hnode
        cases h : t.children.lookup name with
        | none => simp [h] at hnode
        | some child => exact ⟨child, rfl⟩
      rcases lookup_kept_or_skipped ht hchild with ⟨hkept, hskipped⟩ | ⟨hkept, hskipped⟩
      · -- all warnings about the way come from within the kept folder
        have hrest : (child.node? names).isSome := by
          rwa [ViewTree.node?, hchild] at hnode
        have hinner := ih (start ++ [name]) (folderClassName name) (ht.child hchild) hrest
        rw [List.append_assoc, List.singleton_append, List.countP_eq_length_filter] at hinner
        rw [if_neg hskipped, hkept]
        exact hinner
      · -- the one warning is about the first folder, and its folders are not looked at
        rw [if_pos hskipped, hself, hkept]
        rfl

end ControllerCompanion.Generator
