import ControllerCompanion.Proofs.VirtualPaths
import ControllerCompanion.View.Locator

set_option autoImplicit false

/-! # Places of templates

With the default folders, a template is a view if it lies below `Pages` or `Views`, at the top or in
an area (`inConventionFolder_iff`). Its view has the area, the folders and the name that its place
tells (`exists_view_of_path`). The path is classified twice, first by the names of the files and
then by the components of the virtual path; the two agree (`splitArea_agrees`). -/

namespace ControllerCompanion

/-! ## Stems -/

namespace FileName

variable {α : Type} [BEq α] {dot : α} {name : List α}

theorem stem_prefix : (splitExtension dot name).1 <+: name := by
  rw [splitExtension]
  split
  · exact List.prefix_refl name
  · exact List.take_prefix _ name

theorem stem_ne_nil (h : name ≠ []) : (splitExtension dot name).1 ≠ [] := by
  rw [splitExtension]
  split
  next => exact h
  next hbefore => simpa using hbefore

end FileName

/-! ## Paths and their texts -/

/-- Names behind a slash each are names with slashes between, behind one slash. -/
theorem intercalate_map_slash {names : List String} (h : names ≠ []) :
    "".intercalate (names.map ("/" ++ ·)) = "/" ++ "/".intercalate names := by
  induction names with
  | nil => exact absurd rfl h
  | cons name rest ih =>
      cases rest with
      | nil => simp
      | cons next rest =>
          have hrest := ih (by simp)
          rw [List.map_cons] at hrest
          rw [List.map_cons, List.map_cons, String.intercalate_cons_cons, hrest,
            String.intercalate_cons_cons]
          simp [String.append_assoc]

/-- The folders of a page path are read off it again: all names but the last one. -/
theorem View.foldersOf_intercalate {names : List String} (hnames : names ≠ [])
    (h : ∀ name ∈ names, IsPathPart name) :
    foldersOf ("/" ++ "/".intercalate names) = names.dropLast := by
  have hsplit : ("/" ++ "/".intercalate names).toList.splitOn '/'
      = ("" :: names).map String.toList := by
    refine Splitting.IsSplit.splitOn_eq ⟨List.cons_ne_nil _ _, ?_, ?_⟩
    · simpa using fun name hname => (h name hname).2
    · obtain ⟨name, rest, rfl⟩ := List.exists_cons_of_ne_nil hnames
      rw [String.intercalate_cons_cons, String.empty_append]
  have hfilter : (names.map String.toList).filter (!·.isEmpty) = names.map String.toList := by
    refine List.filter_eq_self.2 (List.forall_mem_map.2 fun name hname => ?_)
    simpa using (h name hname).1
  rw [foldersOf, hsplit, List.map_cons, List.filter_cons_of_neg (by simp), hfilter,
    ← List.map_dropLast, List.map_map]
  simp

namespace Locator

/-! ## Places -/

/-- The folders of templates are called as by default. -/
structure HasDefaultFolders (config : ViewLocatorConfig) : Prop where
  pages : config.pagesFolder = "Pages"
  views : config.viewsFolder = "Views"
  areas : config.areasFolder = "Areas"

/-- Where the template of a view lies: in an area or at the top, among the pages or the views, and
    how many folders below. -/
structure Place where
  area : Option FileName
  isPage : Bool
  folders : List FileName
  file : FileName

namespace Place

/-- The name of the folder for pages or views. -/
def folderName (p : Place) : String := if p.isPage then "Pages" else "Views"

/-- The path of the template from the folder for pages or views on. -/
def inner (p : Place) : Location := .text p.folderName :: (p.folders ++ [p.file])

/-- The path of the template. -/
def path (p : Place) : Location :=
  match p.area with
  | none => p.inner
  | some area => .text "Areas" :: area :: p.inner

/-- The template has a virtual path. -/
def HasVirtualPath (p : Place) : Prop :=
  ∃ relative : VirtualPath, relative.components.map .text = p.path

variable {p q : Place}

theorem folderName_ne_areas : p.folderName ≠ "Areas" := by
  rw [folderName]
  split <;> decide

theorem folderName_ne_marker : p.folderName ≠ "~" := by
  rw [folderName]
  split <;> decide

theorem getLast?_path : p.path.getLast? = some p.file := by
  have hinner : p.inner.getLast? = some p.file := by
    rw [inner, ← List.cons_append, List.getLast?_concat]
  rw [path]
  cases p.area with
  | none => exact hinner
  | some area => rw [inner, List.getLast?_cons_cons, List.getLast?_cons_cons]; exact hinner

/-- The names that a place is told by: its area, its folders and its file. -/
def ownNames (p : Place) : List FileName := p.area.toList ++ p.folders ++ [p.file]

theorem ownNames_subset_path : p.ownNames ⊆ p.path := by
  intro name h
  have hinner (hmem : name ∈ p.folders ++ [p.file]) : name ∈ p.inner := List.mem_cons_of_mem _ hmem
  rw [ownNames, List.append_assoc, List.mem_append] at h
  rw [path]
  cases harea : p.area with
  | none => exact hinner (h.resolve_left (by simp [harea]))
  | some area =>
      rcases h with h | h
      · rw [harea, Option.toList_some, List.mem_singleton] at h
        simp [h]
      · exact List.mem_cons_of_mem _ (List.mem_cons_of_mem _ (hinner h))

theorem isPage_eq_of_folderName (h : p.folderName = q.folderName) : p.isPage = q.isPage := by
  unfold folderName at h
  cases hp : p.isPage <;> cases hq : q.isPage <;> simp [hp, hq] at h ⊢

/-- Different places have different paths. -/
theorem path_injective : Function.Injective path := by
  have hinner {p q : Place} (h : p.inner = q.inner) :
      p.isPage = q.isPage ∧ p.folders = q.folders ∧ p.file = q.file := by
    obtain ⟨hfolder, hbelow⟩ := List.cons.inj h
    obtain ⟨hfolders, hfile⟩ := List.append_inj' hbelow rfl
    exact ⟨isPage_eq_of_folderName (FileName.text.inj hfolder), hfolders,
      List.singleton_inj.1 hfile⟩
  rintro ⟨_ | area, isPage, folders, file⟩ ⟨_ | area', isPage', folders', file'⟩ h
  · obtain ⟨rfl, rfl, rfl⟩ := hinner h
    rfl
  · exact absurd (FileName.text.inj (List.cons.inj h).1) folderName_ne_areas
  · exact absurd (FileName.text.inj (List.cons.inj h).1).symm folderName_ne_areas
  · obtain ⟨-, hrest⟩ := List.cons.inj h
    obtain ⟨rfl, hrest⟩ := List.cons.inj hrest
    obtain ⟨rfl, rfl, rfl⟩ := hinner hrest
    rfl

end Place

variable {config : ViewLocatorConfig}

theorem belowArea_path (h : HasDefaultFolders config) (p : Place) :
    belowArea config p.path = p.inner := by
  rw [Place.path]
  cases p.area with
  | none =>
      rw [Place.inner]
      obtain ⟨first, rest, hbelow⟩ := List.exists_cons_of_ne_nil
        (l := p.folders ++ [p.file]) (by simp)
      rw [hbelow, belowArea, if_neg]
      rw [h.areas, FileName.text.injEq]
      exact fun hareas => Place.folderName_ne_areas hareas.1
  | some area =>
      simp only [belowArea]
      rw [if_pos ⟨by rw [h.areas], by simp [Place.inner]⟩]

/-- **What lies below one of the folders is what has a place.** -/
theorem inConventionFolder_iff (h : HasDefaultFolders config) (path : Location) :
    inConventionFolder config path = true ↔ ∃ p : Place, p.path = path := by
  constructor
  · intro hfolder
    -- the folder, the folders below it and the file, in what follows the area
    obtain ⟨p, harea, hp⟩ : ∃ p : Place, p.area = none ∧ p.inner = belowArea config path := by
      rw [inConventionFolder] at hfolder
      split at hfolder
      next folder first rest hbelow =>
        obtain ⟨folders, file, hfolders⟩ : ∃ folders file, first :: rest = folders ++ [file] :=
          ⟨(first :: rest).dropLast, _, (List.dropLast_concat_getLast (by simp)).symm⟩
        rw [Bool.or_eq_true, beq_iff_eq, beq_iff_eq, h.pages, h.views] at hfolder
        rcases hfolder with rfl | rfl
        · exact ⟨⟨none, true, folders, file⟩, rfl, by rw [hbelow, hfolders]; rfl⟩
        · exact ⟨⟨none, false, folders, file⟩, rfl, by rw [hbelow, hfolders]; rfl⟩
      next => simp at hfolder
    unfold belowArea at hp
    split at hp
    next areas area rest =>
      split at hp
      next hareas =>
        refine ⟨{ p with area := some area }, ?_⟩
        rw [hareas.1, h.areas, ← hp]
        rfl
      next => exact ⟨p, by rw [Place.path, harea]; exact hp⟩
    next => exact ⟨p, by rw [Place.path, harea]; exact hp⟩
  · rintro ⟨p, rfl⟩
    rw [inConventionFolder, belowArea_path h, Place.inner]
    obtain ⟨first, rest, hbelow⟩ := List.exists_cons_of_ne_nil
      (l := p.folders ++ [p.file]) (by simp)
    simp only [hbelow]
    rw [h.pages, h.views, Place.folderName]
    split <;> simp

/-! ## Views of places -/

/-- A view tells the place of its template, below the directory with the path text `root`. -/
structure IsViewAt (root : String) (p : Place) (v : View) : Prop where
  relativePath : v.relativePath.components.map .text = p.path
  filePath : v.filePath = root ++ "/" ++ shownPath p.path
  isPage : v.isPage = p.isPage
  area : v.area.map .text = p.area
  name : p.file.stem? = some v.name
  segments : v.segments.map .text = p.area.toList ++ p.folders
  pagePath : v.pagePath = "/" ++ "/".intercalate (v.segments ++ [v.name])

/-- The place, and the directory, tell all of the view. -/
theorem IsViewAt.eq {root : String} {p : Place} {v w : View} (hv : IsViewAt root p v)
    (hw : IsViewAt root p w) : v = w := by
  have htext : Function.Injective FileName.text := fun _ _ => FileName.text.inj
  have hname : v.name = w.name := Option.some_inj.1 (hv.name.symm.trans hw.name)
  have hsegments : v.segments = w.segments :=
    htext.list_map (hv.segments.trans hw.segments.symm)
  have hrelative : v.relativePath = w.relativePath := by
    rw [VirtualPath.mk.injEq]
    exact htext.list_map (hv.relativePath.trans hw.relativePath.symm)
  have hpage : v.pagePath = w.pagePath := by rw [hv.pagePath, hw.pagePath, hsegments, hname]
  have harea : v.area = w.area := Option.map_injective htext (hv.area.trans hw.area.symm)
  have hfile : v.filePath = w.filePath := hv.filePath.trans hw.filePath.symm
  have hkind : v.isPage = w.isPage := hv.isPage.trans hw.isPage.symm
  cases v
  cases w
  rw [View.mk.injEq]
  exact ⟨hname, hfile, hrelative, hpage, hkind, harea, hsegments⟩

/-- A path below one of the folders does not begin with the marker, so that nothing of it is
    dropped. -/
theorem segments_eq_components {p : Place} {relative : VirtualPath}
    (h : relative.components.map .text = p.path) : relative.segments = relative.components := by
  refine relative.segments_eq_components_iff.2 ?_
  rintro ⟨next, rest, hcomponents⟩
  have hfirst : p.path.head? = some (.text "~") := by
    rw [← h, hcomponents]
    rfl
  rw [Place.path] at hfirst
  cases harea : p.area with
  | none =>
      rw [harea] at hfirst
      exact Place.folderName_ne_marker (FileName.text.inj (Option.some.inj hfirst))
  | some area =>
      rw [harea] at hfirst
      exact absurd (Option.some.inj hfirst) (by decide)

/-- A path of texts is split like the names that it consists of. -/
theorem splitArea_agrees (config : ViewLocatorConfig) (segments : List String) :
    (splitArea config segments = (none, segments) ∧
      belowArea config (segments.map .text) = segments.map .text) ∨
    ∃ area rest, splitArea config segments = (some area, rest) ∧
      segments = config.areasFolder :: area :: rest ∧
      belowArea config (segments.map .text) = rest.map .text := by
  rcases segments with _ | ⟨areas, _ | ⟨area, rest⟩⟩
  · exact .inl ⟨rfl, rfl⟩
  · exact .inl ⟨rfl, rfl⟩
  · by_cases h : areas = config.areasFolder ∧ 1 < rest.length
    · refine .inr ⟨area, rest, if_pos h, by rw [h.1], ?_⟩
      exact if_pos ⟨by rw [h.1], by simpa using h.2⟩
    · refine .inl ⟨if_neg h, if_neg ?_⟩
      simpa using h

theorem splitArea_of_path (h : HasDefaultFolders config) {p : Place} {segments : List String}
    (hp : segments.map .text = p.path) :
    ∃ area rest, splitArea config segments = (area, rest) ∧ area.map .text = p.area ∧
      rest.map .text = p.inner := by
  have hbelow := belowArea_path h p
  rcases splitArea_agrees config segments with
    ⟨hsplit, hwhole⟩ | ⟨area, rest, hsplit, rfl, hrest⟩
  · rw [hp, hbelow] at hwhole
    refine ⟨none, segments, hsplit, ?_, hp.trans hwhole.symm⟩
    rw [Place.path] at hwhole
    cases harea : p.area with
    | none => rfl
    | some area =>
        rw [harea] at hwhole
        have hlength := congrArg List.length hwhole
        simp only [List.length_cons] at hlength
        omega
  · rw [hp, hbelow] at hrest
    refine ⟨some area, rest, hsplit, ?_, hrest.symm⟩
    rw [List.map_cons, List.map_cons, ← hrest, Place.path] at hp
    cases harea : p.area with
    | none =>
        rw [harea] at hp
        have hlength := congrArg List.length hp
        simp only [List.length_cons] at hlength
        omega
    | some area' =>
        rw [harea] at hp
        obtain ⟨-, hp⟩ := List.cons.inj hp
        exact congrArg some (List.cons.inj hp).1

theorem exists_texts_of_inner {p : Place} {rest : List String} (h : rest.map .text = p.inner) :
    ∃ folders file, rest = p.folderName :: (folders ++ [file]) ∧ folders.map .text = p.folders ∧
      .text file = p.file := by
  obtain ⟨folder, below, rfl, hfolder, hbelow⟩ := List.map_eq_cons_iff.1 h
  obtain ⟨folders, files, rfl, hfolders, hfiles⟩ := List.map_eq_append_iff.1 hbelow
  obtain ⟨file, rfl, hfile⟩ := List.map_eq_singleton_iff.1 hfiles
  exact ⟨folders, file, by rw [FileName.text.inj hfolder], hfolders, hfile⟩

theorem folderKind_folderName (h : HasDefaultFolders config) (p : Place) :
    folderKind config p.folderName = some p.isPage := by
  rw [folderKind, h.pages, h.views, Place.folderName]
  cases p.isPage <;> decide

theorem classify_eq_none (h : HasDefaultFolders config) {path : Location}
    (hpath : ∀ p : Place, p.path ≠ path) (root : String) :
    classify config root path = .ok none := by
  have hfolder : inConventionFolder config path = false := by
    rw [← Bool.not_eq_true, inConventionFolder_iff h]
    exact fun ⟨p, hp⟩ => hpath p hp
  rw [classify, hfolder]
  rfl

/-- The view of a template that has a place and a virtual path. -/
theorem classify_path (h : HasDefaultFolders config) {p : Place} {relative : VirtualPath}
    (hcomponents : relative.components.map .text = p.path) (root : String) :
    ∃ area folders file, area.map .text = p.area ∧ folders.map .text = p.folders ∧
      .text file = p.file ∧
      classify config root p.path
        = .ok (some (.ofPagePath (viewName file) (root ++ "/" ++ shownPath p.path) relative
            (pagePathOf area folders (viewName file)) p.isPage area)) := by
  obtain ⟨area, rest, hsplit, harea, hrest⟩ := splitArea_of_path h hcomponents
  obtain ⟨folders, file, rfl, hfolders, hfile⟩ := exists_texts_of_inner hrest
  have hfolder : inConventionFolder config p.path = true := (inConventionFolder_iff h _).2 ⟨p, rfl⟩
  refine ⟨area, folders, file, harea, hfolders, hfile, ?_⟩
  rw [classify, hfolder, VirtualPath.ofNames_eq_ok_iff.2 hcomponents]
  simp only [segments_eq_components hcomponents, hsplit, folderKind_folderName h]
  simp

/-- The names of a place with a virtual path can stand between slashes. -/
theorem isPathPart_of_ownNames {p : Place} {relative : VirtualPath} {names : List String}
    (hcomponents : relative.components.map .text = p.path)
    (hnames : names.map .text = p.ownNames) : ∀ name ∈ names, IsPathPart name := by
  intro name hname
  have hpath := Place.ownNames_subset_path (hnames ▸ List.mem_map_of_mem hname)
  rw [← hcomponents, List.mem_map_of_injective fun _ _ => FileName.text.inj] at hpath
  exact isPathPart_of_isComponent (List.all_eq_true.1 relative.wellFormed.2 name hpath)

theorem isPathPart_viewName {file : String} (h : IsPathPart file) : IsPathPart (viewName file) := by
  obtain ⟨hne, hslash⟩ := h
  have hstem : (FileName.splitExtension '.' file.toList).1 ≠ [] :=
    FileName.stem_ne_nil (by simpa using hne)
  refine ⟨by simpa [viewName] using hstem, ?_⟩
  rw [viewName, String.toList_ofList]
  exact fun hmem => hslash (FileName.stem_prefix.subset hmem)

/-- **A template that has a place, and a virtual path, has a view there.** -/
theorem exists_view_of_path (h : HasDefaultFolders config) {p : Place} {relative : VirtualPath}
    (hcomponents : relative.components.map .text = p.path) (root : String) :
    ∃ v, classify config root p.path = .ok (some v) ∧ IsViewAt root p v := by
  obtain ⟨area, folders, file, harea, hfolders, hfile, hview⟩ := classify_path h hcomponents root
  have hown : (area.toList ++ folders ++ [file]).map .text = p.ownNames := by
    rw [Place.ownNames, ← harea, ← hfolders, ← hfile]
    simp [Option.toList_map]
  have hparts : ∀ name ∈ area.toList ++ folders ++ [viewName file], IsPathPart name := by
    have hpart := isPathPart_of_ownNames hcomponents hown
    rw [List.forall_mem_append, List.forall_mem_singleton] at hpart ⊢
    exact ⟨hpart.1, isPathPart_viewName hpart.2⟩
  have hpage : pagePathOf area folders (viewName file)
      = "/" ++ "/".intercalate (area.toList ++ folders ++ [viewName file]) :=
    intercalate_map_slash (by simp)
  have hsegments : View.foldersOf (pagePathOf area folders (viewName file))
      = area.toList ++ folders := by
    rw [hpage, View.foldersOf_intercalate (by simp) hparts, List.dropLast_concat]
  refine ⟨_, hview, ?_⟩
  exact {
    relativePath := hcomponents
    filePath := rfl
    isPage := rfl
    area := harea
    name := by rw [← hfile]; rfl
    segments := by
      rw [View.ofPagePath, hsegments, ← harea, ← hfolders]
      simp [Option.toList_map]
    pagePath := by rw [View.ofPagePath, hsegments, hpage] }

end Locator

end ControllerCompanion
