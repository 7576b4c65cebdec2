import ControllerCompanion.Proofs.ViewsClass.Folder

set_option autoImplicit false

/-! # The views class at every depth

The class of the views and all classes inside of it are built alike (`isLinked_viewsClass`): no
name is used twice, a field holds a text or leads into a nested class, each nested class is led
into by one field, and only the class of the root can be empty. A class inside is that of a folder
with something in it, or the list of the views of a folder (`IsInner`), and this goes down from a
class to those nested in it. -/

namespace ControllerCompanion

/-! ## Classes of texts and instances -/

namespace FieldDecl

/-- A field that holds a text: a string that is set to a literal. -/
def IsText (f : FieldDecl) : Prop :=
  f.type = .named "string" ∧ ∃ text, f.initializer = some (.stringLiteral text)

/-- The class of which a field holds a new object: the field is set to a new object of its type,
    and the type is the name of the class. -/
def instanceOf? (f : FieldDecl) : Option String :=
  match f.initializer with
  | some (.objectCreation created []) =>
    if created = f.type ∧ f.type.args = [] then some f.type.name else none
  | _ => none

theorem IsText.instanceOf?_eq_none {f : FieldDecl} (h : f.IsText) : f.instanceOf? = none := by
  obtain ⟨-, text, htext⟩ := h
  rw [instanceOf?, htext]

end FieldDecl

namespace ClassDecl

/-- The classes of which the fields hold a new object. -/
def instances (k : ClassDecl) : List String := k.fields.filterMap FieldDecl.instanceOf?

/-- Every member can be told by its name, and the fields with an instance and the nested classes
    belong to each other. -/
structure IsLinked (k : ClassDecl) : Prop where
  names : k.memberNames.Nodup
  /-- A field holds a text, or an instance of exactly one nested class. -/
  fields : ∀ f ∈ k.fields, f.IsText ∨ ∃ name, f.instanceOf? = some name ∧
    (k.nestedClasses.map ClassDecl.name).count name = 1
  /-- Exactly one field holds an instance of a nested class. -/
  nested : ∀ d ∈ k.nestedClasses, k.instances.count d.name = 1

/-- `c.Encloses k`: the class `k` lies in `c`, at whatever depth. -/
inductive Encloses : ClassDecl → ClassDecl → Prop where
  | nested {c d : ClassDecl} (hd : d ∈ c.nestedClasses) : Encloses c d
  | deeper {c d k : ClassDecl} (hd : d ∈ c.nestedClasses) (hk : Encloses d k) : Encloses c k

/-- If the fields with an instance are those of the nested classes, one for each, then both belong
    to each other as soon as no name is used twice. -/
theorem isLinked_of_instances {k : ClassDecl} (hnames : k.memberNames.Nodup)
    (hfields : ∀ f ∈ k.fields, f.IsText ∨ f.instanceOf? ≠ none)
    (hinstances : k.instances = k.nestedClasses.map ClassDecl.name) : k.IsLinked := by
  have hnested : (k.nestedClasses.map ClassDecl.name).Nodup :=
    hnames.sublist
      (names_sublist (by rintro (_ | _ | _ | _ | _) a h <;> cases h; rfl) k.members)
  refine ⟨hnames, ?fields, ?nested⟩
  case fields =>
    intro f hf
    refine (hfields f hf).imp_right ?_
    intro hsome
    obtain ⟨name, hname⟩ := Option.ne_none_iff_exists'.1 hsome
    have hmem : name ∈ k.instances := List.mem_filterMap.2 ⟨f, hf, hname⟩
    rw [hinstances] at hmem
    exact ⟨name, hname, List.count_eq_one_of_mem hnested hmem⟩
  case nested =>
    intro d hd
    rw [hinstances]
    exact List.count_eq_one_of_mem hnested (List.mem_map_of_mem hd)

end ClassDecl

namespace Generator

open ClassDecl

/-! ## Both kinds of classes -/

theorem instanceOf?_instanceField (name className : String) :
    (instanceField name className).instanceOf? = some className := by
  simp [FieldDecl.instanceOf?, instanceField, TypeRef.named]

theorem isText_leafField (v : View) : (leafField v).IsText := ⟨rfl, v.exposedPath, rfl⟩

theorem isText_nameField (v : View) : (nameField v).IsText := ⟨rfl, v.name, rfl⟩

/-- The class of a folder is linked. -/
theorem isLinked_folderClass (path : List String) (className : String) (t : ViewTree) :
    (folderClass path className t).1.IsLinked := by
  refine isLinked_of_instances (nodup_memberNames_folderClass path className t) ?fields ?instances
  case fields =>
    intro f hf
    have hinstance : ∀ name className, (instanceField name className).instanceOf? ≠ none := by
      simp [instanceOf?_instanceField]
    rw [fields_folderClass, List.mem_append, List.mem_append] at hf
    rcases hf with (hnames | hfolder) | hleaf
    · split at hnames
      · exact absurd hnames List.not_mem_nil
      · rw [List.mem_singleton.1 hnames]
        exact .inr (hinstance _ _)
    · obtain ⟨folder, -, rfl⟩ := List.mem_map.1 hfolder
      exact .inr (hinstance _ _)
    · obtain ⟨v, -, rfl⟩ := List.mem_map.1 hleaf
      exact .inl (isText_leafField v)
  case instances =>
    have hleaves : ((leafViews t).map leafField).filterMap FieldDecl.instanceOf? = [] := by
      simp [(isText_leafField _).instanceOf?_eq_none]
    rw [instances, fields_folderClass, nestedClasses_folderClass, List.filterMap_append, hleaves,
      List.append_nil, List.filterMap_append, List.map_append, List.filterMap_map, List.map_map]
    congr 1
    · cases t.views.isEmpty <;> simp [instanceOf?_instanceField, viewNamesClass_name]
    · simp [Function.comp_def, instanceOf?_instanceField, folderClass_name]

theorem fields_viewNamesClass (views : List View) :
    (viewNamesClass views).fields = (FirstCome.admitted leafNames [] views).map nameField := by
  rw [ClassDecl.fields, members_viewNamesClass, List.filterMap_map]
  simp

@[simp] theorem nestedClasses_viewNamesClass (views : List View) :
    (viewNamesClass views).nestedClasses = [] := by
  rw [nestedClasses, members_viewNamesClass, List.filterMap_map]
  simp

/-- The list of views is linked. -/
theorem isLinked_viewNamesClass (views : List View) : (viewNamesClass views).IsLinked := by
  refine isLinked_of_instances ?names ?fields ?instances
  case names =>
    have hnames : (viewNamesClass views).memberNames
        = [] ++ (FirstCome.admitted leafNames [] views).flatMap leafNames := by
      simp [ClassDecl.memberNames, members_viewNamesClass, flatMap_leafNames, Member.name,
        nameField]
    rw [hnames]
    exact FirstCome.nodup_admitted nodup_leafNames .nil views
  case fields =>
    intro f hf
    rw [fields_viewNamesClass] at hf
    obtain ⟨v, -, rfl⟩ := List.mem_map.1 hf
    exact .inl (isText_nameField v)
  case instances =>
    rw [instances, fields_viewNamesClass, nestedClasses_viewNamesClass]
    simp [(isText_nameField _).instanceOf?_eq_none]

/-! ## Going down -/

/-- A class inside of a views class: that of a folder with something in it, or the list of the views
    of a folder. -/
inductive IsInner : ClassDecl → Prop where
  | folder (path : List String) (className : String) {t : ViewTree} (hnames : t.DistinctNames)
      (hfolders : t.NoEmptyFolders) (hne : t.views ≠ [] ∨ t.children ≠ []) :
      IsInner (folderClass path className t).1
  | viewNames {views : List View} (hne : views ≠ []) : IsInner (viewNamesClass views)

theorem IsInner.isLinked {k : ClassDecl} (h : IsInner k) : k.IsLinked := by
  cases h with
  | folder path className _ _ _ => exact isLinked_folderClass path className _
  | viewNames _ => exact isLinked_viewNamesClass _

/-- A class inside of a views class is not empty: nobody is refused a name before others got one. -/
theorem IsInner.members_ne_nil {k : ClassDecl} (h : IsInner k) : k.members ≠ [] := by
  cases h with
  | @folder path className t _ _ hne =>
      rw [members_folderClass]
      by_cases hviews : t.views = []
      · -- nothing is reserved, so the first folder is kept
        have hkept : keptFolders t ≠ [] := by
          have hreserved : reservedNames t.views = [] := by simp [reservedNames, hviews]
          rw [keptFolders, hreserved]
          exact FirstCome.admitted_ne_nil (hne.resolve_left (not_not_intro hviews))
        obtain ⟨f, hf⟩ := List.exists_mem_of_ne_nil _ hkept
        refine List.append_ne_nil_of_left_ne_nil (List.append_ne_nil_of_right_ne_nil _ ?_) _
        exact List.ne_nil_of_mem (List.mem_flatMap.2 ⟨f, hf, List.mem_cons_self⟩)
      · simp [viewNamesMembers, hviews]
  | viewNames hne =>
      rw [members_viewNamesClass]
      simpa using FirstCome.admitted_ne_nil hne

/-- What is nested in the class of a folder is a class inside. -/
theorem isInner_of_mem_folderClass {path : List String} {className : String} {t : ViewTree}
    (hnames : t.DistinctNames) (hfolders : t.NoEmptyFolders) {d : ClassDecl}
    (hd : d ∈ (folderClass path className t).1.nestedClasses) : IsInner d := by
  rcases mem_nestedClasses_folderClass hd with ⟨hviews, rfl⟩ | ⟨f, hf, rfl⟩
  · exact .viewNames hviews
  · have hlookup : t.children.lookup f.1 = some f.2 :=
      (Keyed.lookup_eq_some_iff_mem hnames.here).2 ((FirstCome.admitted_sublist _ _).subset hf)
    exact .folder _ _ (hnames.child hlookup) (hfolders.child hlookup)
      (hfolders.child_ne_empty hlookup)

/-- What is nested in a class inside is a class inside again. -/
theorem IsInner.nested {k d : ClassDecl} (h : IsInner k) (hd : d ∈ k.nestedClasses) :
    IsInner d := by
  cases h with
  | folder path className hnames hfolders _ =>
      exact isInner_of_mem_folderClass hnames hfolders hd
  | viewNames _ => simp at hd

/-- All classes that lie in a class inside are such classes too. -/
theorem IsInner.of_encloses {d k : ClassDecl} (hk : d.Encloses k) (h : IsInner d) : IsInner k := by
  induction hk with
  | nested hd => exact h.nested hd
  | deeper hd _ ih => exact ih (h.nested hd)

/-- **The views class is well formed at every depth.** No class in it uses a name twice, each field
holds a text or an instance of one nested class, each nested class belongs to one such field, and no
class but that of the root is empty. -/
theorem isLinked_viewsClass (views : List View) :
    (viewsClass views).1.IsLinked ∧
      ∀ k, (viewsClass views).1.Encloses k → k.IsLinked ∧ k.members ≠ [] := by
  refine ⟨isLinked_folderClass _ _ _, ?_⟩
  intro k hk
  have hinner : IsInner k := by
    have hroot : ∀ d ∈ (viewsClass views).1.nestedClasses, IsInner d := by
      intro d hd
      exact isInner_of_mem_folderClass (ViewTree.distinctNames_ofViews views)
        (ViewTree.noEmptyFolders_ofViews views) hd
    cases hk with
    | nested hd => exact hroot k hd
    | deeper hd hk => exact (hroot _ hd).of_encloses hk
  exact ⟨hinner.isLinked, hinner.members_ne_nil⟩

end Generator

end ControllerCompanion
