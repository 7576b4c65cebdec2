import ControllerCompanion.Proofs.Locator.Places
import ControllerCompanion.Proofs.Locator.Search
import ControllerCompanion.Proofs.Project.Runs
import Mathlib.Data.List.Forall2

set_option autoImplicit false

/-! # The views that are found

The views of a project are those of its recognised templates, one for each, in the order of their
paths (`findViews_recognised`). So they depend on the paths of the files only
(`viewsOf_eq_of_files`). -/

namespace ControllerCompanion

namespace Locator

variable {config : ViewLocatorConfig}

/-! ## Recognised templates -/

/-- The extension of a file name is one of the configured ones. The case of ASCII letters does not
    count. -/
def HasTemplateExtension (config : ViewLocatorConfig) (name : FileName) : Prop :=
  ∃ extension, name.extension? = some extension ∧
    ∃ e ∈ config.extensions, e.toList.map Char.toLower = extension.toList.map Char.toLower

/-- The file name is one of a template that is a view. -/
structure IsTemplateName (config : ViewLocatorConfig) (name : FileName) : Prop where
  extension : HasTemplateExtension config name
  stem : ∀ stem, name.stem? = some stem → stem ∉ config.excludedFiles

theorem isTemplate_eq_true_iff {name : FileName} :
    isTemplate config name = true ↔
      HasTemplateExtension config name ∧ name.stem?.getD "" ∉ config.excludedFiles := by
  have hfold : ViewLocatorConfig.foldAscii = Char.toLower := rfl
  rw [HasTemplateExtension]
  cases hextension : name.extension? with
  | none => simp [isTemplate, hextension]
  | some extension => simp [isTemplate, hextension, ViewLocatorConfig.isTemplateExtension, hfold]

theorem isTemplateName_of_isTemplate {name : FileName} (h : isTemplate config name = true) :
    IsTemplateName config name := by
  obtain ⟨hextension, hstem⟩ := isTemplate_eq_true_iff.1 h
  refine ⟨hextension, fun stem hsome => ?_⟩
  rwa [hsome] at hstem

/-- A name that is a text has a stem, so that nothing else can exclude it. -/
theorem IsTemplateName.isTemplate {s : String} (h : IsTemplateName config (.text s)) :
    isTemplate config (.text s) = true :=
  isTemplate_eq_true_iff.2 ⟨h.extension, h.stem _ rfl⟩

/-- The template at a place is recognised: a regular file that is neither hidden nor excluded and
    has the name of a template. -/
structure IsRecognised (hidden : FileName → Prop) (config : ViewLocatorConfig) (n : Node)
    (p : Place) : Prop where
  isFile : ∃ text, n.get? p.path = some (.file text)
  visible : ∀ name ∈ p.path, ¬hidden name
  entered : ∀ name ∈ p.path.dropLast, ¬IsExcludedDirectory config name
  isTemplate : IsTemplateName config p.file

theorem isRecognised_iff {n : Node} {p : Place} :
    IsRecognised IsHidden config n p ↔ IsFound config n p.path ∧ IsTemplateName config p.file :=
  ⟨fun ⟨hfile, hvisible, hentered, hname⟩ => ⟨⟨hfile, hvisible, hentered⟩, hname⟩,
    fun ⟨⟨hfile, hvisible, hentered⟩, hname⟩ => ⟨hfile, hvisible, hentered, hname⟩⟩

/-! ## The views of files -/

/-- A file that is no template, or has no place, is passed over. -/
theorem viewsOfFiles_cons_of_not (root : String) (h : HasDefaultFolders config) {path : Location}
    (hpath : ∀ p : Place, p.path = path → isTemplate config p.file = false)
    (paths : List Location) :
    viewsOfFiles config root (path :: paths) = viewsOfFiles config root paths := by
  rw [viewsOfFiles]
  by_cases hplace : ∃ p : Place, p.path = path
  · obtain ⟨p, rfl⟩ := hplace
    rw [Place.getLast?_path, Option.map_some, Option.getD_some, hpath p rfl]
    rfl
  · rw [classify_eq_none h (fun p hp => hplace ⟨p, hp⟩)]
    split
    next =>
      show (viewsOfFiles config root paths).map id = _
      cases viewsOfFiles config root paths <;> rfl
    next => rfl

/-- A template with a place and a virtual path adds its view. -/
theorem viewsOfFiles_cons_path (root : String) (h : HasDefaultFolders config) {p : Place}
    (htemplate : isTemplate config p.file = true) (hvalid : p.HasVirtualPath)
    (paths : List Location) :
    ∃ v, IsViewAt root p v ∧
      viewsOfFiles config root (p.path :: paths)
        = (viewsOfFiles config root paths).map (v :: ·) := by
  obtain ⟨relative, hrelative⟩ := hvalid
  obtain ⟨v, hclassify, hview⟩ := exists_view_of_path h hrelative root
  refine ⟨v, hview, ?_⟩
  rw [viewsOfFiles, Place.getLast?_path, Option.map_some, Option.getD_some, htemplate, if_pos rfl,
    hclassify]
  rfl

/-- The views of some files are those of the templates among them that have a place, in the order
    of the files. -/
theorem exists_viewsOfFiles (root : String) (h : HasDefaultFolders config) {files : List Location}
    (hvalid : ∀ p : Place, p.path ∈ files → isTemplate config p.file = true → p.HasVirtualPath) :
    ∃ places vs, viewsOfFiles config root files = .ok vs ∧
      List.Forall₂ (IsViewAt root) places vs ∧ (places.map Place.path).Sublist files ∧
      ∀ p, p ∈ places ↔ p.path ∈ files ∧ isTemplate config p.file = true := by
  induction files with
  | nil => exact ⟨[], [], rfl, .nil, .slnil, by simp⟩
  | cons path paths ih =>
      obtain ⟨places, vs, hvs, hviews, hsublist, hmem⟩ :=
        ih fun p hp => hvalid p (List.mem_cons_of_mem _ hp)
      by_cases hpath : ∃ p : Place, p.path = path ∧ isTemplate config p.file = true
      · obtain ⟨p, rfl, htemplate⟩ := hpath
        obtain ⟨v, hview, hcons⟩ := viewsOfFiles_cons_path root h htemplate
          (hvalid p List.mem_cons_self htemplate) paths
        refine ⟨p :: places, v :: vs, by rw [hcons, hvs]; rfl, .cons hview hviews,
          hsublist.cons_cons _, fun q => ?_⟩
        rw [List.mem_cons, List.mem_cons, hmem, Place.path_injective.eq_iff]
        constructor
        · rintro (rfl | ⟨hq, hqtemplate⟩)
          · exact ⟨.inl rfl, htemplate⟩
          · exact ⟨.inr hq, hqtemplate⟩
        · rintro ⟨rfl | hq, hqtemplate⟩
          · exact .inl rfl
          · exact .inr ⟨hq, hqtemplate⟩
      · have hother : ∀ p : Place, p.path = path → isTemplate config p.file = false := by
          intro p hp
          by_contra htemplate
          exact hpath ⟨p, hp, Bool.not_eq_false _ ▸ htemplate⟩
        refine ⟨places, vs, by rw [viewsOfFiles_cons_of_not root h hother, hvs], hviews,
          hsublist.cons _, fun q => ?_⟩
        rw [hmem, List.mem_cons]
        constructor
        · rintro ⟨hq, hqtemplate⟩
          exact ⟨.inr hq, hqtemplate⟩
        · rintro ⟨hq | hq, hqtemplate⟩
          · simp [hother q hq] at hqtemplate
          · exact ⟨hq, hqtemplate⟩

/-! ## The scan -/

/-- Views, with the places of their templates: there is one for each recognised template of a
    directory, and they are in the order of the paths. -/
structure IsScanOf (hidden : FileName → Prop) (config : ViewLocatorConfig) (found : Found)
    (places : List Place) (vs : List View) : Prop where
  views : List.Forall₂ (IsViewAt found.path) places vs
  recognised : ∀ p, p ∈ places ↔ IsRecognised hidden config found.node p
  ordered : (places.map Place.path).Pairwise Precedes

/-- There is one scan only: what is recognised, and where, tells all of it. -/
theorem IsScanOf.eq {hidden : FileName → Prop} {found other : Found} {places places' : List Place}
    {vs ws : List View} (h : IsScanOf hidden config found places vs)
    (h' : IsScanOf hidden config other places' ws) (hpath : found.path = other.path)
    (hsame : ∀ p, IsRecognised hidden config found.node p ↔
      IsRecognised hidden config other.node p) : vs = ws := by
  have hmem : ∀ p, p ∈ places ↔ p ∈ places' := by
    intro p
    rw [h.recognised, h'.recognised, hsame]
  have hplaces : places = places' := by
    have hperm : places.Perm places' :=
      (List.perm_ext_iff_of_nodup (.of_map _ (nodup_of_precedes h.ordered))
        (.of_map _ (nodup_of_precedes h'.ordered))).2 hmem
    exact hperm.eq_of_pairwise (fun p q _ _ hpq hqp => absurd hqp hpq.asymm)
      (List.pairwise_map.1 h.ordered) (List.pairwise_map.1 h'.ordered)
  subst hplaces
  have hws := hpath ▸ h'.views
  have hvs := h.views
  clear h h' hmem
  induction hvs generalizing ws with
  | nil => cases hws; rfl
  | cons hview _ ih =>
      obtain _ | ⟨hother, hrest⟩ := hws
      rw [hview.eq hother, ih hrest]

theorem exists_isScanOf (h : HasDefaultFolders config) {found : Found}
    (hdistinct : found.node.HasDistinctNames)
    (hvalid : ∀ p, IsRecognised IsHidden config found.node p → p.HasVirtualPath) :
    ∃ places vs, views config found.path found.node = .ok vs ∧
      IsScanOf IsHidden config found places vs := by
  have hfiles (p : Place) : p.path ∈ filesBelow config [] found.node ↔
      IsFound config found.node p.path := by
    simp [mem_filesBelow hdistinct]
  have hrecognised {p : Place} (hp : p.path ∈ filesBelow config [] found.node)
      (htemplate : isTemplate config p.file = true) : IsRecognised IsHidden config found.node p :=
    isRecognised_iff.2 ⟨(hfiles p).1 hp, isTemplateName_of_isTemplate htemplate⟩
  obtain ⟨places, vs, hvs, hviews, hsublist, hmem⟩ := exists_viewsOfFiles found.path h
    fun p hp htemplate => hvalid p (hrecognised hp htemplate)
  refine ⟨places, vs, hvs, hviews, fun p => ?_, (pairwise_filesBelow hdistinct []).sublist hsublist⟩
  rw [hmem]
  constructor
  · rintro ⟨hp, htemplate⟩
    exact hrecognised hp htemplate
  · intro hp
    obtain ⟨hpath, hname⟩ := isRecognised_iff.1 hp
    refine ⟨(hfiles p).2 hpath, ?_⟩
    -- a template with a virtual path has a text as its name
    obtain ⟨relative, hrelative⟩ := hvalid p hp
    have hlast := Place.getLast?_path (p := p)
    rw [← hrelative, List.getLast?_map] at hlast
    obtain ⟨file, -, hfile⟩ := Option.map_eq_some_iff.1 hlast
    rw [← hfile] at hname ⊢
    exact hname.isTemplate

end Locator

namespace Project

open Locator

/-- **A scan depends on the paths of the files only**, not on the order in which the directories
list them, nor on what they hold. -/
theorem viewsOf_eq_of_files {s s' : Storage} {root root' : String} {found other : Found}
    (hfound : s.find root = .ok found) (hother : s'.find root' = .ok other)
    (hpath : found.path = other.path) (hdistinct : found.node.HasDistinctNames)
    (hdistinct' : other.node.HasDistinctNames) {config : ViewLocatorConfig}
    (hfolders : HasDefaultFolders config)
    (hfiles : ∀ path, (∃ text, found.node.get? path = some (.file text)) ↔
      ∃ text, other.node.get? path = some (.file text))
    (hvalid : ∀ p, IsRecognised IsHidden config found.node p → p.HasVirtualPath) :
    viewsOf s config root = viewsOf s' config root' := by
  have hsame (p : Place) : IsRecognised IsHidden config found.node p ↔
      IsRecognised IsHidden config other.node p :=
    ⟨fun h => ⟨(hfiles _).1 h.isFile, h.visible, h.entered, h.isTemplate⟩,
      fun h => ⟨(hfiles _).2 h.isFile, h.visible, h.entered, h.isTemplate⟩⟩
  obtain ⟨places, vs, hvs, hscan⟩ := exists_isScanOf hfolders hdistinct hvalid
  obtain ⟨places', ws, hws, hscan'⟩ :=
    exists_isScanOf hfolders hdistinct' fun p hp => hvalid p ((hsame p).2 hp)
  rw [viewsOf, hfound, viewsOf, hother]
  simp only [hvs, hws, hscan.eq hscan' hpath hsame]

/-- **A scan finds the recognised templates, once each, in the order of their paths.** -/
theorem findViews_recognised {s : Storage} {root : String} {found : Found}
    (hfound : s.find root = .ok found) (hdistinct : found.node.HasDistinctNames)
    {config : ViewLocatorConfig} (hfolders : HasDefaultFolders config)
    (hvalid : ∀ p, IsRecognised IsHidden config found.node p → p.HasVirtualPath) :
    ∃ places vs, (findViews config root : StateM Storage _) s = (.ok vs, s) ∧
      IsScanOf IsHidden config found places vs := by
  obtain ⟨places, vs, hvs, hscan⟩ := exists_isScanOf hfolders hdistinct hvalid
  refine ⟨places, vs, ?_, hscan⟩
  rw [findViews_eq, viewsOf, hfound]
  simp only [hvs, mapError_ok]

/-- A directory of a project, alone on a disk. -/
def onDisk (n : Node) : Storage := ⟨.directory [(.text "shop", n)], []⟩

theorem find_onDisk (entries : List (FileName × Node)) :
    (onDisk (.directory entries)).find "shop" = .ok ⟨"/shop", .directory entries⟩ := by
  with_unfolding_all rfl

/-- A project with an area. Its directories are listed in no order, some of its templates are
    hidden, and some are left from a build. -/
def shop : Node :=
  .directory [
    (.text "Views", .directory [
      (.text "_ViewStart.cshtml", .file ""),
      (.text "Home", .directory [
        (.text "Index.CSHTML", .file ""), (.text ".Index.cshtml", .file "")])]),
    (.text "bin", .directory [(.text "Views", .directory [(.text "Old.cshtml", .file "")])]),
    (.text "Areas", .directory [(.text "Admin", .directory [(.text "Pages", .directory [
      (.text "Users.cshtml", .file "")])])])]

theorem hasDistinctNames_shop : shop.HasDistinctNames := by
  simp only [shop, Node.hasDistinctNames_directory, Node.hasDistinctNames_file,
    List.forall_mem_cons, List.not_mem_nil, false_imp_iff, implies_true, and_true]
  decide +kernel

theorem hasVirtualPath_of_shop {p : Place} (hp : IsRecognised IsHidden {} shop p) :
    p.HasVirtualPath := by
  have hfile : p.path ∈ filesBelow {} [] shop :=
    (mem_filesBelow hasDistinctNames_shop).2 ⟨p.path, rfl, (isRecognised_iff.1 hp).1⟩
  simp only [shop, filesBelow, List.mem_flatMap, List.mem_mergeSort] at hfile
  simp [filesOfEntries, filesBelow, isExcluded, Node.isDirectory] at hfile
  rcases hfile with (hpath | hpath) | hpath
  · exact ⟨⟨["Views", "_ViewStart.cshtml"], by decide⟩, hpath.symm⟩
  · exact ⟨⟨["Views", "Home", "Index.CSHTML"], by decide⟩, hpath.symm⟩
  · exact ⟨⟨["Areas", "Admin", "Pages", "Users.cshtml"], by decide⟩, hpath.symm⟩

/-- A scan of the project, in which templates are recognised. -/
theorem findViews_recognised_shop :
    (onDisk shop).find "shop" = .ok ⟨"/shop", shop⟩ ∧ shop.HasDistinctNames ∧
      HasDefaultFolders {} ∧ (∀ p, IsRecognised IsHidden {} shop p → p.HasVirtualPath) ∧
      IsRecognised IsHidden {} shop ⟨some (.text "Admin"), true, [], .text "Users.cshtml"⟩ ∧
      ∃ places vs, (findViews {} "shop" : StateM Storage _) (onDisk shop) = (.ok vs, onDisk shop) ∧
        IsScanOf IsHidden {} ⟨"/shop", shop⟩ places vs := by
  have hfound : (onDisk shop).find "shop" = .ok ⟨"/shop", shop⟩ := find_onDisk _
  have hfolders : HasDefaultFolders {} := ⟨rfl, rfl, rfl⟩
  refine ⟨hfound, hasDistinctNames_shop, hfolders, fun p => hasVirtualPath_of_shop, ?_,
    findViews_recognised hfound hasDistinctNames_shop hfolders fun p => hasVirtualPath_of_shop⟩
  exact {
    isFile := ⟨"", rfl⟩
    visible := by simp [Place.path, Place.inner, Place.folderName, IsHidden]
    entered := by simp [Place.path, Place.inner, Place.folderName, IsExcludedDirectory]
    isTemplate := isTemplateName_of_isTemplate (by decide) }

/-- A name whose bytes begin with a dot, whether they are a text or not. -/
def BeginsWithDot (name : FileName) : Prop := name.bytes.head? = some 0x2e

/-- A project with a template below a directory whose name begins with a dot and is no text. -/
def draft : Node :=
  .directory [(.text "Views", .directory [
    (.raw [0x2e, 0xff], .directory [(.text "Draft.cshtml", .file "")])])]

/-- All files of a directory with one entry lie below it. -/
theorem exists_rest_of_get?_only {name : FileName} {n : Node} {path : Location} {text : String}
    (h : (Node.directory [(name, n)]).get? path = some (.file text)) :
    ∃ rest, path = name :: rest ∧ n.get? rest = some (.file text) := by
  cases path with
  | nil => simp at h
  | cons first rest =>
      rw [Node.get?_cons, List.lookup_cons] at h
      by_cases hfirst : first = name
      · subst hfirst
        exact ⟨rest, rfl, by simpa using h⟩
      · simp [beq_false_of_ne hfirst] at h

/-- A name that is no text does not hide what lies below it, but makes the scan fail. -/
theorem not_findViews_recognised_draft :
    ¬∀ (s : Storage) (root : String) (found : Found) (config : ViewLocatorConfig),
      s.find root = .ok found → found.node.HasDistinctNames → HasDefaultFolders config →
      (∀ p, IsRecognised BeginsWithDot config found.node p → p.HasVirtualPath) →
      ∃ places vs, (findViews config root : StateM Storage _) s = (.ok vs, s) ∧
        IsScanOf BeginsWithDot config found places vs := by
  intro hall
  have hdistinct : draft.HasDistinctNames := by
    simp only [draft, Node.hasDistinctNames_directory, Node.hasDistinctNames_file,
      List.forall_mem_cons, List.not_mem_nil, false_imp_iff, implies_true, and_true]
    decide
  have hnone (p : Place) : ¬IsRecognised BeginsWithDot {} draft p := by
    rintro ⟨⟨text, hfile⟩, hvisible, -, -⟩
    obtain ⟨below, hviews, hfile⟩ := exists_rest_of_get?_only hfile
    obtain ⟨rest, rfl, -⟩ := exists_rest_of_get?_only hfile
    exact hvisible (.raw [0x2e, 0xff]) (by simp [hviews]) rfl
  have hfound : (onDisk draft).find "shop" = .ok ⟨"/shop", draft⟩ := find_onDisk _
  obtain ⟨places, vs, hrun, -⟩ := hall (onDisk draft) "shop" _ {} hfound hdistinct
    ⟨rfl, rfl, rfl⟩ fun p hp => absurd hp (hnone p)
  have hviews : views {} "/shop" draft = .error ⟨"Views/.\ufffd/Draft.cshtml", .notUtf8⟩ := by
    decide +kernel
  rw [findViews_eq, viewsOf, hfound] at hrun
  simp only [hviews, mapError_error] at hrun
  cases hrun

end Project

end ControllerCompanion
