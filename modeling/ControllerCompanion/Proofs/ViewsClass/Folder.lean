import ControllerCompanion.Generator.ViewsClass
import ControllerCompanion.Proofs.FirstCome
import ControllerCompanion.Proofs.Members
import ControllerCompanion.Proofs.ViewTree

set_option autoImplicit false

/-! # The class of one folder

What the class of a folder is made of, for any folder. The names of the class come in three rounds:
the two names for the list of views, if there are views; two names for each folder in it; one name
for each view. In each round the first to ask for a name gets it (`FirstCome`), so the names of the
members are distinct (`nodup_memberNames_folderClass`). -/

namespace ControllerCompanion.Generator

/-! ## Names -/

/-- The names that are taken before folders and views are looked at. -/
def reservedNames (views : List View) : List String :=
  if views.isEmpty then [] else [viewNamesClassName, viewNamesFieldName]

/-- The names that a folder needs. -/
def folderNames (f : String × ViewTree) : List String :=
  [folderClassName f.1, folderFieldName f.1]

/-- The name that a view needs. -/
def leafNames (v : View) : List String := [viewFieldName v]

theorem nodup_reservedNames (views : List View) : (reservedNames views).Nodup := by
  unfold reservedNames
  split
  · exact .nil
  · decide

theorem toList_folderClassName (folder : String) :
    (folderClassName folder).toList
      = '_' :: ((folderFieldName folder).toList.dropWhile (· == '@') ++ "Class".toList) := by
  simp [folderClassName]

/-- The class of a folder is longer than its field, unless the field has an `@`, which the class has
    not. -/
theorem folderClassName_ne_folderFieldName (folder : String) :
    folderClassName folder ≠ folderFieldName folder := by
  intro h
  have hclass := toList_folderClassName folder
  rw [h] at hclass
  -- a field that is a class name begins with `_`, so there is no `@` to drop
  have hmark : (folderFieldName folder).toList.dropWhile (· == '@')
      = (folderFieldName folder).toList := by
    rw [hclass]
    rfl
  rw [hmark] at hclass
  have hlength := congrArg List.length hclass
  simp only [List.length_cons, List.length_append] at hlength
  omega

theorem nodup_folderNames (f : String × ViewTree) : (folderNames f).Nodup := by
  simp [folderNames, folderClassName_ne_folderFieldName]

theorem nodup_leafNames (v : View) : (leafNames v).Nodup := List.nodup_singleton _

theorem folderClassName_ne_string (folder : String) : folderClassName folder ≠ "string" := by
  intro h
  have hclass := toList_folderClassName folder
  rw [h] at hclass
  exact absurd (List.cons.inj hclass).1 (by decide)

/-! ## Who gets in -/

/-- The folders that get a class. -/
def keptFolders (t : ViewTree) : List (String × ViewTree) :=
  FirstCome.admitted folderNames (reservedNames t.views) t.children

/-- The folders that are left out. -/
def skippedFolders (t : ViewTree) : List (String × ViewTree) :=
  FirstCome.refused folderNames (reservedNames t.views) t.children

/-- The names that are taken before views are looked at. -/
def takenNames (t : ViewTree) : List String :=
  reservedNames t.views ++ (keptFolders t).flatMap folderNames

/-- The views that get a field. -/
def leafViews (t : ViewTree) : List View :=
  FirstCome.admitted leafNames (takenNames t) t.views

/-- The views that are left out. -/
def skippedViews (t : ViewTree) : List View :=
  FirstCome.refused leafNames (takenNames t) t.views

theorem nodup_takenNames (t : ViewTree) : (takenNames t).Nodup :=
  FirstCome.nodup_admitted (fun f => nodup_folderNames f) (nodup_reservedNames t.views) t.children

theorem flatMap_leafNames (views : List View) :
    views.flatMap leafNames = views.map viewFieldName :=
  List.map_eq_flatMap.symm

theorem nodup_takenNames_append (t : ViewTree) :
    (takenNames t ++ (leafViews t).map viewFieldName).Nodup := by
  rw [← flatMap_leafNames]
  exact FirstCome.nodup_admitted nodup_leafNames (nodup_takenNames t) t.views

/-! ## The members -/

/-- The field of a view. -/
def leafField (v : View) : FieldDecl :=
  ⟨viewFieldName v, .named "string", readonlyModifiers, some (.stringLiteral v.exposedPath)⟩

/-- A field with an instance of a class. -/
def instanceField (name className : String) : FieldDecl :=
  ⟨name, .named className, readonlyModifiers, some (.objectCreation (.named className) [])⟩

/-- The members for the list of views. -/
def viewNamesMembers (views : List View) : List Member :=
  if views.isEmpty then []
  else
    [.nestedClass (viewNamesClass views),
      .field (instanceField viewNamesFieldName viewNamesClassName)]

/-- The members for a folder at a path. -/
def folderMembers (path : List String) (f : String × ViewTree) : List Member :=
  [.nestedClass (folderClass (path ++ [f.1]) (folderClassName f.1) f.2).1,
    .field (instanceField (folderFieldName f.1) (folderClassName f.1))]

/-- The field of a view in the list of views. -/
def nameField (v : View) : FieldDecl :=
  ⟨viewFieldName v, .named "string", readonlyModifiers, some (.stringLiteral v.name)⟩

/-- What a view is checked against are the names of the members so far. -/
theorem clashes_leafNames (c : ClassDecl) (v : View) :
    FirstCome.clashes leafNames c.memberNames v = c.declares (viewFieldName v) := by
  simp [FirstCome.clashes, leafNames, ClassDecl.declares]

theorem foldl_nameField (c : ClassDecl) (views : List View) :
    views.foldl
        (fun c v =>
          if c.declares (viewFieldName v) then c
          else c.addStringField (viewFieldName v) v.name readonlyModifiers) c
      = c.addMembers
          ((FirstCome.admitted leafNames c.memberNames views).map
            fun v => .field (nameField v)) := by
  induction views generalizing c with
  | nil => simp [FirstCome.admitted]
  | cons v rest ih =>
      rw [List.foldl_cons, ih, FirstCome.admitted, clashes_leafNames]
      split
      · rfl
      · simp [ClassDecl.addStringField, ClassDecl.addField, ClassDecl.addMember, nameField,
          leafNames, Member.name]

/-- The list of views has a field for each view that is the first one of its name. -/
theorem viewNamesClass_eq (views : List View) :
    viewNamesClass views
      = (ClassDecl.empty viewNamesClassName [] [.isPublic]).addMembers
          ((FirstCome.admitted leafNames [] views).map fun v => .field (nameField v)) :=
  foldl_nameField _ views

theorem viewNamesClass_name (views : List View) :
    (viewNamesClass views).name = viewNamesClassName := by
  rw [viewNamesClass_eq]
  rfl

theorem members_viewNamesClass (views : List View) :
    (viewNamesClass views).members
      = (FirstCome.admitted leafNames [] views).map fun v => .field (nameField v) := by
  rw [viewNamesClass_eq]
  rfl

theorem addViewNames_empty (name : String) (views : List View) :
    addViewNames (.empty name [] [.isPublic]) views
      = (ClassDecl.empty name [] [.isPublic]).addMembers (viewNamesMembers views) := by
  unfold addViewNames viewNamesMembers
  split
  · exact (ClassDecl.addMembers_nil _).symm
  · exact ClassDecl.addMembers_addMembers _ _ _

theorem viewNamesMembers_names (views : List View) :
    (viewNamesMembers views).map Member.name = reservedNames views := by
  unfold viewNamesMembers reservedNames
  split
  · rfl
  · simp [Member.name, viewNamesClass_name, instanceField]

theorem addViews_eq (path : List String) (c : ClassDecl) (views : List View) :
    addViews path c views
      = (c.addMembers
          ((FirstCome.admitted leafNames c.memberNames views).map
            fun v => .field (leafField v)),
        (FirstCome.refused leafNames c.memberNames views).map
          (.viewSkipped path)) := by
  induction views generalizing c with
  | nil => simp [addViews, FirstCome.admitted, FirstCome.refused]
  | cons v rest ih =>
      simp only [addViews, FirstCome.admitted, FirstCome.refused, clashes_leafNames]
      split
      · simp [ih]
      · rw [ih]
        simp [ClassDecl.addStringField, ClassDecl.addField, ClassDecl.addMember, leafField,
          leafNames, Member.name]

theorem addFolders_name (path : List String) (c : ClassDecl)
    (children : List (String × ViewTree)) : (addFolders path c children).1.name = c.name := by
  induction children generalizing c with
  | nil => simp [addFolders]
  | cons f rest ih =>
      obtain ⟨folder, t⟩ := f
      rw [addFolders]
      split
      · exact ih c
      · exact ih _

/-- The class of a folder before its folders and views are added. -/
def folderStart (name : String) (views : List View) : ClassDecl :=
  (ClassDecl.empty name [] [.isPublic]).addMembers (viewNamesMembers views)

theorem memberNames_folderStart (name : String) (views : List View) :
    (folderStart name views).memberNames = reservedNames views := by
  rw [folderStart, ClassDecl.memberNames_addMembers, viewNamesMembers_names]
  rfl

theorem folderClass_eq (path : List String) (name : String) (t : ViewTree) :
    folderClass path name t
      = ((addViews path (addFolders path (folderStart name t.views) t.children).1 t.views).1,
        (addFolders path (folderStart name t.views) t.children).2
          ++ (addViews path (addFolders path (folderStart name t.views) t.children).1
            t.views).2) := by
  obtain ⟨views, children⟩ := t
  rw [folderClass, addViewNames_empty]
  rfl

theorem folderClass_name (path : List String) (name : String) (t : ViewTree) :
    (folderClass path name t).1.name = name := by
  rw [folderClass_eq, addViews_eq]
  exact addFolders_name path _ t.children

theorem viewsClass_name (views : List View) : (viewsClass views).1.name = viewsClassName :=
  folderClass_name _ _ _

theorem folderMembers_names (path : List String) (f : String × ViewTree) :
    (folderMembers path f).map Member.name = folderNames f := by
  simp [folderMembers, folderNames, Member.name, instanceField, folderClass_name]

/-- A folder is left out with a warning if one of its names is taken; else its members are added,
    and the warnings from within are passed on. -/
theorem addFolders_cons (path : List String) (c : ClassDecl) (f : String × ViewTree)
    (rest : List (String × ViewTree)) :
    addFolders path c (f :: rest)
      = if FirstCome.clashes folderNames c.memberNames f then
          ((addFolders path c rest).1, .folderSkipped path f.1 :: (addFolders path c rest).2)
        else
          ((addFolders path (c.addMembers (folderMembers path f)) rest).1,
            (folderClass (path ++ [f.1]) (folderClassName f.1) f.2).2
              ++ (addFolders path (c.addMembers (folderMembers path f)) rest).2) := by
  obtain ⟨folder, t⟩ := f
  have hclash : folderCollides c folder
      = FirstCome.clashes folderNames c.memberNames (folder, t) := by
    simp [folderCollides, FirstCome.clashes, folderNames, ClassDecl.declares, Bool.or_comm]
  have hadd : addFolder c folder (folderClass (path ++ [folder]) (folderClassName folder) t).1
      = c.addMembers (folderMembers path (folder, t)) :=
    ClassDecl.addMembers_addMembers _ _ _
  rw [addFolders, hclash, ← hadd]

theorem addFolders_fst (path : List String) (c : ClassDecl) (children : List (String × ViewTree)) :
    (addFolders path c children).1
      = c.addMembers
          ((FirstCome.admitted folderNames c.memberNames children).flatMap
            (folderMembers path)) := by
  induction children generalizing c with
  | nil => simp [addFolders, FirstCome.admitted]
  | cons f rest ih =>
      rw [addFolders_cons, FirstCome.admitted]
      split
      · exact ih c
      · simp only [ih, ClassDecl.addMembers_addMembers, ClassDecl.memberNames_addMembers,
          folderMembers_names, List.flatMap_cons]

theorem memberNames_addFolders (path : List String) (name : String) (t : ViewTree) :
    (addFolders path (folderStart name t.views) t.children).1.memberNames = takenNames t := by
  rw [addFolders_fst, ClassDecl.memberNames_addMembers, memberNames_folderStart, takenNames,
    keptFolders]
  simp only [List.map_flatMap, folderMembers_names]

/-- **The members of a folder's class.** Those for the list of its views come first, then those of
    its folders, then the fields of its views. -/
theorem members_folderClass (path : List String) (name : String) (t : ViewTree) :
    (folderClass path name t).1.members
      = viewNamesMembers t.views ++ (keptFolders t).flatMap (folderMembers path)
        ++ (leafViews t).map fun v => .field (leafField v) := by
  rw [folderClass_eq, addViews_eq, memberNames_addFolders, addFolders_fst,
    memberNames_folderStart]
  rfl

/-- The warnings about a folder: those about the folders in it, and those of these, come first. -/
theorem folderClass_snd (path : List String) (name : String) (t : ViewTree) :
    (folderClass path name t).2
      = (addFolders path (folderStart name t.views) t.children).2
        ++ (skippedViews t).map (.viewSkipped path) := by
  rw [folderClass_eq, addViews_eq, memberNames_addFolders]
  rfl

/-- **The names of the members of a folder's class are distinct.** -/
theorem nodup_memberNames_folderClass (path : List String) (name : String) (t : ViewTree) :
    (folderClass path name t).1.memberNames.Nodup := by
  have hnames : (folderClass path name t).1.memberNames
      = takenNames t ++ (leafViews t).map viewFieldName := by
    simp [ClassDecl.memberNames, members_folderClass, takenNames, viewNamesMembers_names,
      List.map_flatMap, folderMembers_names, Member.name, leafField]
  rw [hnames]
  exact nodup_takenNames_append t

/-! ## Reading the class -/

theorem field?_folderClass {path : List String} {className : String} {t : ViewTree} {v : View}
    (h : v ∈ leafViews t) :
    (folderClass path className t).1.field? (viewFieldName v) = some (leafField v) := by
  have hmem : Member.field (leafField v) ∈ (folderClass path className t).1.members := by
    rw [members_folderClass]
    exact List.mem_append_right _ (List.mem_map_of_mem h)
  exact ClassDecl.field?_of_mem (nodup_memberNames_folderClass path className t) hmem

/-- The fields of a folder's class: the one for the list of its views comes first, then those of its
    folders, then those of its views. -/
theorem fields_folderClass (path : List String) (className : String) (t : ViewTree) :
    (folderClass path className t).1.fields
      = (if t.views.isEmpty then [] else [instanceField viewNamesFieldName viewNamesClassName])
        ++ (keptFolders t).map (fun f => instanceField (folderFieldName f.1) (folderClassName f.1))
        ++ (leafViews t).map leafField := by
  rw [ClassDecl.fields, members_folderClass, List.filterMap_append, List.filterMap_append,
    List.filterMap_flatMap, List.filterMap_map, List.map_eq_flatMap, viewNamesMembers]
  cases t.views.isEmpty <;> simp [folderMembers]

/-- The nested classes are the one with the names of the views, and those of the kept folders. -/
theorem nestedClasses_folderClass (path : List String) (className : String) (t : ViewTree) :
    (folderClass path className t).1.nestedClasses
      = (if t.views.isEmpty then [] else [viewNamesClass t.views])
        ++ (keptFolders t).map fun f =>
          (folderClass (path ++ [f.1]) (folderClassName f.1) f.2).1 := by
  rw [ClassDecl.nestedClasses, members_folderClass, List.filterMap_append, List.filterMap_append,
    List.filterMap_flatMap, List.filterMap_map, List.map_eq_flatMap, viewNamesMembers]
  cases t.views.isEmpty <;> simp [folderMembers]

theorem type_instanceField_ne_string {name className : String} (h : className ≠ "string") :
    (instanceField name className).type ≠ .named "string" := by
  simpa [instanceField, TypeRef.named] using h

/-- The fields with a text are those of the views. -/
theorem stringFields_folderClass (path : List String) (className : String) (t : ViewTree) :
    (folderClass path className t).1.stringFields = (leafViews t).map leafField := by
  have hnames : (instanceField viewNamesFieldName viewNamesClassName).type ≠ .named "string" :=
    type_instanceField_ne_string (by decide)
  have hfolders : ((keptFolders t).map fun f =>
      instanceField (folderFieldName f.1) (folderClassName f.1)).filter
        (·.type = .named "string") = [] := by
    refine List.filter_eq_nil_iff.2 fun f hf => ?_
    obtain ⟨folder, -, rfl⟩ := List.mem_map.1 hf
    simpa using type_instanceField_ne_string (folderClassName_ne_string folder.1)
  have hleaves : ((leafViews t).map leafField).filter (·.type = .named "string")
      = (leafViews t).map leafField := by
    refine List.filter_eq_self.2 fun f hf => ?_
    obtain ⟨v, -, rfl⟩ := List.mem_map.1 hf
    simp [leafField]
  rw [ClassDecl.stringFields, fields_folderClass, List.filter_append, List.filter_append, hfolders,
    hleaves]
  cases t.views.isEmpty <;> simp [hnames]

theorem mem_nestedClasses_folderClass {path : List String} {className : String} {t : ViewTree}
    {d : ClassDecl} (h : d ∈ (folderClass path className t).1.nestedClasses) :
    t.views ≠ [] ∧ d = viewNamesClass t.views
      ∨ ∃ f ∈ keptFolders t, d = (folderClass (path ++ [f.1]) (folderClassName f.1) f.2).1 := by
  rw [nestedClasses_folderClass, List.mem_append] at h
  rcases h with hnames | hfolder
  · left
    split at hnames
    · exact absurd hnames List.not_mem_nil
    next hviews => exact ⟨by simpa using hviews, List.mem_singleton.1 hnames⟩
  · obtain ⟨f, hf, rfl⟩ := List.mem_map.1 hfolder
    exact .inr ⟨f, hf, rfl⟩

end ControllerCompanion.Generator
