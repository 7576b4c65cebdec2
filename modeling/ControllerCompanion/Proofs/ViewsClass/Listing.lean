import ControllerCompanion.Proofs.ViewsClass.Paths
import ControllerCompanion.Proofs.ViewsClass.WellFormed

set_option autoImplicit false

/-! # The views of a folder, listed twice

The class of a folder shows the views that lie in it in two places: in the class with their names,
and as its own fields with their paths. In both places the first view of each field name is taken,
in the order in which the names first come up; a field is only left out if its name is taken by the
list itself or by a folder (`views_listed_twice`). -/

namespace ControllerCompanion.Generator

/-- The folders at a path that no warning leaves out, by their segments. -/
def keptFoldersAt (views : List View) (path : List String) : List String :=
  (ViewTree.childFolders views path).filter fun folder =>
    (viewsClass views).2.countP (Warning.cutsOff (path ++ [folder])) = 0

/-- Whether a field name is left to the views of a folder with some folders in it. -/
def IsLeft (folders : List String) (name : String) : Prop :=
  name ∉ [viewNamesClassName, viewNamesFieldName]
    ∧ ∀ folder ∈ folders, name ∉ [folderClassName folder, folderFieldName folder]

instance (folders : List String) (name : String) : Decidable (IsLeft folders name) :=
  inferInstanceAs (Decidable (_ ∧ ∀ folder ∈ folders, _))

/-- How a class `c` shows the views that lie in its folder, beside the folders in it. `list` is the
    nested class with their names. -/
structure Lists (views : List View) (folders : List String) (c list : ClassDecl) : Prop where
  /-- The list and the field with an instance of it come first. -/
  first_members : c.members.take 2
    = [.nestedClass list, .field (instanceField viewNamesFieldName viewNamesClassName)]
  list_name : list.name = viewNamesClassName
  /-- The list has a field for each field name of a view, in the order of the first occurrences. -/
  names : list.fields.map FieldDecl.name = (views.map viewFieldName).eraseDups
  /-- Each of its fields holds the name of the first view with that field name. -/
  names_first : ∀ f ∈ list.fields, ∃ v,
    views.find? (viewFieldName · == f.name) = some v ∧ f = nameField v
  /-- The class has the same fields in the same order, but for the names that are taken. -/
  leaves : c.stringFields.map FieldDecl.name
    = ((views.map viewFieldName).eraseDups).filter (IsLeft folders ·)
  /-- Each of them holds the path of the same first view. -/
  leaves_first : ∀ f ∈ c.stringFields, ∃ v,
    views.find? (viewFieldName · == f.name) = some v ∧ f = leafField v

/-! ## One folder -/

theorem map_name_leafField (views : List View) :
    (views.map leafField).map FieldDecl.name = views.map viewFieldName :=
  List.map_map

theorem map_name_nameField (views : List View) :
    (views.map nameField).map FieldDecl.name = views.map viewFieldName :=
  List.map_map

/-- The names that are taken before the views are looked at are those of the list and of the kept
    folders. -/
theorem not_mem_takenNames_iff {n : ViewTree} {folders : List String} (hviews : n.views ≠ [])
    (hfolders : ∀ folder, folder ∈ folders ↔ folder ∈ (keptFolders n).map Prod.fst)
    (name : String) : name ∉ takenNames n ↔ IsLeft folders name := by
  have hreserved : reservedNames n.views = [viewNamesClassName, viewNamesFieldName] := by
    simp [reservedNames, hviews]
  simp only [IsLeft, hfolders]
  rw [takenNames, hreserved, List.mem_append, not_or, List.forall_mem_map, List.mem_flatMap]
  simp only [folderNames, not_exists, not_and]

/-- **The class of a folder shows its views twice.** -/
theorem lists_folderClass (path : List String) (className : String) {n : ViewTree}
    {folders : List String} (hviews : n.views ≠ [])
    (hfolders : ∀ folder, folder ∈ folders ↔ folder ∈ (keptFolders n).map Prod.fst) :
    Lists n.views folders (folderClass path className n).1 (viewNamesClass n.views) := by
  refine ⟨?first_members, viewNamesClass_name _, ?names, ?names_first, ?leaves, ?leaves_first⟩
  case first_members =>
    have hmembers : viewNamesMembers n.views
        = [.nestedClass (viewNamesClass n.views),
          .field (instanceField viewNamesFieldName viewNamesClassName)] := by
      simp [viewNamesMembers, hviews]
    rw [members_folderClass, hmembers]
    rfl
  case names =>
    have hnames := FirstCome.map_admitted viewFieldName [] n.views
    rw [fields_viewNamesClass, map_name_nameField]
    exact hnames.trans (List.filter_eq_self.2 fun _ _ => by simp)
  case names_first =>
    intro f hf
    rw [fields_viewNamesClass] at hf
    obtain ⟨v, hv, rfl⟩ := List.mem_map.1 hf
    have hfirst : n.views.find? (viewFieldName · == viewFieldName v) = some v :=
      FirstCome.find?_of_mem_admitted hv
    exact ⟨v, hfirst, rfl⟩
  case leaves =>
    have hleaves := FirstCome.map_admitted viewFieldName (takenNames n) n.views
    rw [stringFields_folderClass, map_name_leafField]
    exact hleaves.trans (List.filter_congr fun name _ => by
      simp only [not_mem_takenNames_iff hviews hfolders])
  case leaves_first =>
    intro f hf
    rw [stringFields_folderClass] at hf
    obtain ⟨v, hv, rfl⟩ := List.mem_map.1 hf
    have hfirst : n.views.find? (viewFieldName · == viewFieldName v) = some v :=
      FirstCome.find?_of_mem_admitted hv
    exact ⟨v, hfirst, rfl⟩

theorem stringFields_of_views_eq_nil (path : List String) (className : String) {n : ViewTree}
    (hviews : n.views = []) : (folderClass path className n).1.stringFields = [] := by
  rw [stringFields_folderClass, leafViews, hviews]
  rfl

/-! ## All folders -/

section

variable {views : List View} {path : List String}

/-- The folders that no warning leaves out are those that get a class. -/
theorem mem_keptFoldersAt_iff {n : ViewTree} (h : keptAt views path = some n) (folder : String) :
    folder ∈ keptFoldersAt views path ↔ folder ∈ (keptFolders n).map Prod.fst := by
  rw [keptFoldersAt, List.mem_filter, decide_eq_true_eq]
  constructor
  · rintro ⟨hchild, huncut⟩
    obtain ⟨t, ht⟩ := exists_keptAt_of_uncut (.inr (ViewTree.mem_childFolders.1 hchild)) huncut
    rw [keptAt, keptNode?_append] at ht
    unfold keptAt at h
    rw [h, Option.bind_some] at ht
    obtain ⟨child, hlookup, -⟩ := keptNode?_cons_eq_some_iff.1 ht
    by_contra habsent
    rw [Keyed.lookup_eq_none_of_not_mem habsent] at hlookup
    cases hlookup
  · intro hkept
    obtain ⟨f, hf, rfl⟩ := List.mem_map.1 hkept
    have hchild := keptAt_concat h hf
    have hview : ∃ v ∈ views, path ++ [f.1] <+: v.segments :=
      (isFolder_of_keptAt hchild).resolve_left (by simp)
    exact ⟨ViewTree.mem_childFolders.2 hview, countP_cutsOff_eq_zero_of_keptAt hchild⟩

end

/-- **View names and view leaves describe the same views.** Each folder that no warning cuts off has
a class. Without views in the folder, the class has no field with a text; otherwise it begins with
the list of the views, and its fields with a text are those of the list, in the same order and for
the same views, except where the name is taken. -/
theorem views_listed_twice (views : List View) {path : List String}
    (hfolder : ViewTree.IsFolder views path)
    (huncut : (viewsClass views).2.countP (Warning.cutsOff path) = 0) :
    ∃ c, classAt (viewsClass views).1 path = some c
      ∧ (views.filter (path = ·.segments) = [] → c.stringFields = [])
      ∧ (views.filter (path = ·.segments) ≠ [] →
        ∃ list, Lists (views.filter (path = ·.segments)) (keptFoldersAt views path) c list) := by
  obtain ⟨n, hkept⟩ := exists_keptAt_of_uncut hfolder huncut
  obtain ⟨className, hclass⟩ := classAt_of_keptAt hkept
  rw [← views_of_keptAt hkept]
  refine ⟨_, hclass, fun hnone => stringFields_of_views_eq_nil path className hnone, ?_⟩
  intro hviews
  exact ⟨_, lists_folderClass path className hviews (mem_keptFoldersAt_iff hkept)⟩

/-- A page of some site. -/
def sitePage (folders : List String) (name : String) (relativePath : VirtualPath) : View :=
  ⟨name, "", relativePath, "/" ++ "/".intercalate (folders ++ [name]), true, none, folders⟩

/-- Pages that ask for names of a folder, of the list, and of each other. -/
def sitePages : List View :=
  [sitePage ["Admin"] "Users" ⟨["Pages", "Admin", "Users.cshtml"], by decide +kernel⟩,
    sitePage [] "Sign-In" ⟨["Pages", "Sign-In.cshtml"], by decide +kernel⟩,
    sitePage [] "Admin" ⟨["Pages", "Admin.cshtml"], by decide +kernel⟩,
    sitePage [] "ViewNames" ⟨["Pages", "ViewNames.cshtml"], by decide +kernel⟩,
    sitePage [] "Sign_In" ⟨["Pages", "Sign_In.cshtml"], by decide +kernel⟩,
    sitePage [] "new" ⟨["Pages", "new.cshtml"], by decide +kernel⟩]

theorem sitePages_listed_twice :
    ViewTree.IsFolder sitePages []
      ∧ (viewsClass sitePages).2.countP (Warning.cutsOff []) = 0
      ∧ ∃ c list, classAt (viewsClass sitePages).1 [] = some c
        ∧ Lists (sitePages.filter ([] = ·.segments)) (keptFoldersAt sitePages []) c list
        ∧ list.fields.map FieldDecl.name = ["Sign_In", "Admin", "ViewNames", "@new"]
        ∧ c.stringFields.map FieldDecl.name = ["Sign_In", "@new"] := by
  have hfolder : ViewTree.IsFolder sitePages [] := .inl rfl
  have huncut : (viewsClass sitePages).2.countP (Warning.cutsOff []) = 0 := by decide +kernel
  obtain ⟨c, hclass, -, hlists⟩ := views_listed_twice sitePages hfolder huncut
  obtain ⟨list, hlist⟩ := hlists (by decide +kernel)
  refine ⟨hfolder, huncut, c, list, hclass, hlist, ?_, ?_⟩
  · rw [hlist.names]
    decide +kernel
  · rw [hlist.leaves]
    decide +kernel

end ControllerCompanion.Generator
