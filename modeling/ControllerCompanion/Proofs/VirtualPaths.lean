import ControllerCompanion.Proofs.Splitting
import ControllerCompanion.View.VirtualPath
import Mathlib.Data.List.Basic
import Mathlib.Data.List.TFAE
import Mathlib.Tactic.TFAE

set_option autoImplicit false

/-! # Spellings of virtual paths

A text is a virtual path exactly if it spells names behind its marker, and the path has just these
names as components; its own text is one spelling of it (`exists_ofText_iff_spells`). The segments
of a path are what its text has behind all that looks like a marker (`isSplit_segments`). So they
are its names unless the first of these looks like the marker too: such names are dropped, as long
as another one follows (`segments_eq_names_tfae`). -/

namespace ControllerCompanion

open Unicode

/-! ## Components -/

theorem isComponent_iff {s : String} :
    isComponent s = true ↔
      s ≠ "" ∧ s ≠ "." ∧ s ≠ ".." ∧ ∀ c ∈ s.toList, c ≠ '/' ∧ isForbidden c = false := by
  simp [isComponent, and_assoc]

/-- A text that can stand between slashes, and is found there again. -/
def IsPathPart (s : String) : Prop := s ≠ "" ∧ '/' ∉ s.toList

theorem isPathPart_of_isComponent {s : String} (h : isComponent s = true) : IsPathPart s := by
  obtain ⟨hne, -, -, hall⟩ := isComponent_iff.1 h
  exact ⟨hne, fun hslash => (hall '/' hslash).1 rfl⟩

namespace VirtualPath

theorem isComponent_of_mem {p : VirtualPath} {s : String} (h : s ∈ p.components) :
    isComponent s = true :=
  List.all_eq_true.1 p.wellFormed.2 s h

theorem isPathPart_of_mem {p : VirtualPath} {s : String} (h : s ∈ p.components) : IsPathPart s :=
  isPathPart_of_isComponent (isComponent_of_mem h)

theorem ne_here_of_mem {p : VirtualPath} {s : String} (h : s ∈ p.components) : s ≠ "." :=
  (isComponent_iff.1 (isComponent_of_mem h)).2.1

theorem fault?_eq_none_of_isComponent {s : String} (h : isComponent s = true) :
    fault? (.text s) = none := by
  obtain ⟨-, -, hup, hall⟩ := isComponent_iff.1 h
  rw [fault?, if_neg hup, Option.map_eq_none_iff, List.find?_eq_none]
  intro c hc
  simp [(hall c hc).2]

/-- **A virtual path is made of names exactly if they are its components.** -/
theorem ofNames_eq_ok_iff {shown : String} {names : List FileName} {p : VirtualPath} :
    ofNames shown names = .ok p ↔ p.components.map .text = names := by
  constructor
  · intro h
    rw [ofNames] at h
    split at h
    next => simp at h
    next hfault =>
      dsimp only at h
      split at h
      next =>
        obtain rfl := Except.ok.inj h
        have htext : ∀ name ∈ names, (FileName.text? name).map FileName.text = some name := by
          intro name hname
          have hnone := List.findSome?_eq_none_iff.1 hfault name hname
          cases name with
          | text s => rfl
          | raw bytes => simp [fault?] at hnone
        rw [List.map_filterMap, List.filterMap_congr htext]
        exact List.filterMap_some
      next => simp at h
  · rintro rfl
    have hfault : (p.components.map FileName.text).findSome? fault? = none := by
      refine List.findSome?_eq_none_iff.2 (List.forall_mem_map.2 fun s hs => ?_)
      exact fault?_eq_none_of_isComponent (isComponent_of_mem hs)
    have htexts : (p.components.map FileName.text).filterMap FileName.text? = p.components := by
      rw [List.filterMap_map]
      exact List.filterMap_some
    rw [ofNames, hfault]
    simp only [htexts]
    exact dif_pos p.wellFormed

/-! ## Spellings -/

/-- The names in the text of a path: what stands between its slashes, without empty pieces and
    steps to the same directory. -/
def HasNames (path : String) (names : List String) : Prop :=
  ∃ pieces, Splitting.IsSplit '/' path pieces ∧
    names = pieces.filter fun piece => piece ≠ "" ∧ piece ≠ "."

/-- The text of a path relative to the root spells names that can be the components of a virtual
    path. -/
structure Spells (path : String) (names : List String) : Prop where
  relative : path.toList.head? ≠ some '/'
  hasNames : HasNames path names
  nonempty : names ≠ []
  noParent : ".." ∉ names
  allowed : ∀ name ∈ names, ∀ c ∈ name.toList, c ≠ '?' ∧ c ≠ '#' ∧ c ≠ '\\' ∧ isControl c = false

variable {path text : String} {names : List String} {p : VirtualPath}

theorem hasNames_iff : HasNames path names ↔ names = namesOf path.toList := by
  have hcounts : (fun piece : String => decide (piece ≠ "" ∧ piece ≠ "."))
      = fun piece => piece != "" && piece != "." := by
    funext piece
    simp [bne, beq_eq_decide]
  simp only [HasNames, Splitting.isSplit_iff, exists_eq_left', hcounts, namesOf]

theorem isForbidden_eq_false_iff {c : Char} :
    isForbidden c = false ↔ c ≠ '?' ∧ c ≠ '#' ∧ c ≠ '\\' ∧ isControl c = false := by
  simp [isForbidden, and_assoc]

/-- Names that are spelled are components. -/
theorem Spells.isComponent (h : Spells path names) : ∀ name ∈ names, isComponent name = true := by
  intro name hname
  obtain ⟨pieces, hpieces, rfl⟩ := h.hasNames
  obtain ⟨hpiece, hcounts⟩ := List.mem_filter.1 hname
  obtain ⟨hempty, hhere⟩ := of_decide_eq_true hcounts
  refine isComponent_iff.2 ⟨hempty, hhere, fun hup => h.noParent (hup ▸ hname), fun c hc => ?_⟩
  refine ⟨?_, isForbidden_eq_false_iff.2 (h.allowed name hname c hc)⟩
  rintro rfl
  exact hpieces.not_mem name hpiece hc

theorem ofRelative_eq_ok_iff :
    ofRelative path = .ok p ↔ path.toList.head? ≠ some '/' ∧ HasNames path p.components := by
  have htext : Function.Injective FileName.text := fun _ _ => FileName.text.inj
  rw [hasNames_iff, ofRelative]
  split
  next hroot => simp [hroot]
  next hroot => simp [hroot, ofNames_eq_ok_iff, htext.list_map.eq_iff]

/-- **A path is virtual exactly if it spells names, and these are its components.** -/
theorem ofRelative_eq_ok_iff_spells : ofRelative path = .ok p ↔ Spells path p.components := by
  rw [ofRelative_eq_ok_iff]
  constructor
  · rintro ⟨hrelative, hnames⟩
    refine ⟨hrelative, hnames, p.wellFormed.1, fun hup => ?_, fun name hname c hc => ?_⟩
    · exact (isComponent_iff.1 (isComponent_of_mem hup)).2.2.1 rfl
    · obtain ⟨-, -, -, hall⟩ := isComponent_iff.1 (isComponent_of_mem hname)
      exact isForbidden_eq_false_iff.1 (hall c hc).2
  · exact fun h => ⟨h.relative, h.hasNames⟩

/-- Names that are spelled are the components of a path. -/
theorem Spells.exists_components (h : Spells path names) :
    ∃ p : VirtualPath, p.components = names :=
  ⟨⟨names, h.nonempty, List.all_eq_true.2 h.isComponent⟩, rfl⟩

theorem ofText_marker (path : String) : ofText ("~/" ++ path) = ofRelative path := by
  simp [ofText]

theorem ofText_eq_ok_iff :
    ofText text = .ok p ↔ ∃ path, text = "~/" ++ path ∧ ofRelative path = .ok p := by
  constructor
  · intro h
    unfold ofText at h
    split at h
    next rest htext =>
      refine ⟨String.ofList rest, ?_, h⟩
      rw [← String.toList_inj, htext]
      simp
    next => cases h
  · rintro ⟨path, rfl, h⟩
    rwa [ofText_marker]

/-! ## The canonical spelling -/

theorem isSplit_intercalate (hne : names ≠ []) (hparts : ∀ name ∈ names, IsPathPart name) :
    Splitting.IsSplit '/' ("/".intercalate names) names :=
  ⟨hne, fun name hname => (hparts name hname).2, rfl⟩

/-- Path parts with slashes between are their own spelling. -/
theorem hasNames_intercalate (hne : names ≠ []) (hparts : ∀ name ∈ names, IsPathPart name)
    (hhere : ∀ name ∈ names, name ≠ ".") : HasNames ("/".intercalate names) names := by
  refine ⟨names, isSplit_intercalate hne hparts, (List.filter_eq_self.2 fun name hname => ?_).symm⟩
  exact decide_eq_true ⟨(hparts name hname).1, hhere name hname⟩

/-- Components with slashes between are read as a path with these components. -/
theorem ofRelative_intercalate (p : VirtualPath) :
    ofRelative ("/".intercalate p.components) = .ok p := by
  have hsplit := isSplit_intercalate p.wellFormed.1 fun _ => isPathPart_of_mem
  have hrelative := hsplit.head?_ne fun hmem => (isPathPart_of_mem hmem).1 rfl
  exact ofRelative_eq_ok_iff.2 ⟨hrelative, hasNames_intercalate p.wellFormed.1
    (fun _ => isPathPart_of_mem) fun _ => ne_here_of_mem⟩

theorem ofText_text (p : VirtualPath) : ofText p.text = .ok p := by
  rw [text, ofText_marker, ofRelative_intercalate]

/-- **A text is a virtual path exactly if it spells names behind its marker.** The path is then
written with these names, that text is read as the same path, and a text relative to the root is
read like the one with the marker before it. -/
theorem exists_ofText_iff_spells :
    (∀ text value, (∃ p, ofText text = .ok p ∧ p.text = value) ↔
      ∃ path names, text = "~/" ++ path ∧ Spells path names ∧
        value = "~/" ++ "/".intercalate names) ∧
    (∀ p : VirtualPath, ofText p.text = .ok p) ∧
    ∀ path, ofRelative path = ofText ("~/" ++ path) := by
  refine ⟨fun text value => ⟨?_, ?_⟩, ofText_text, fun path => (ofText_marker path).symm⟩
  · rintro ⟨p, hp, rfl⟩
    obtain ⟨path, rfl, hpath⟩ := ofText_eq_ok_iff.1 hp
    exact ⟨path, p.components, rfl, ofRelative_eq_ok_iff_spells.1 hpath, rfl⟩
  · rintro ⟨path, names, rfl, hspells, rfl⟩
    obtain ⟨p, rfl⟩ := hspells.exists_components
    exact ⟨p, ofText_eq_ok_iff.2 ⟨path, rfl, ofRelative_eq_ok_iff_spells.2 hspells⟩, rfl⟩

/-! ## Segments -/

/-- Names that begin with one that looks like the marker, with another one behind it. -/
def RepeatsMarker (names : List String) : Prop := ∃ next rest, names = "~" :: next :: rest

/-- What is dropped are names that look like the marker, and one name is always left. -/
theorem exists_dropMarkers (hne : names ≠ []) :
    ∃ count, names = List.replicate count "~" ++ dropMarkers names ∧ dropMarkers names ≠ [] ∧
      ¬RepeatsMarker (dropMarkers names) := by
  induction names using dropMarkers.induct with
  | case1 next rest ih =>
      obtain ⟨count, heq, hleft, hnot⟩ := ih (List.cons_ne_nil next rest)
      rw [dropMarkers, if_pos rfl]
      refine ⟨count + 1, ?_, hleft, hnot⟩
      rw [List.replicate_succ, List.cons_append, ← heq]
  | case2 first next rest hfirst =>
      rw [dropMarkers, if_neg hfirst]
      refine ⟨0, rfl, List.cons_ne_nil _ _, ?_⟩
      rintro ⟨next', rest', heq⟩
      exact hfirst (List.cons.inj heq).1
  | case3 few hfew =>
      rw [dropMarkers.eq_2 few hfew]
      refine ⟨0, rfl, hne, ?_⟩
      rintro ⟨next, rest, rfl⟩
      exact hfew "~" next rest rfl

theorem dropMarkers_eq_self_iff (hne : names ≠ []) :
    dropMarkers names = names ↔ ¬RepeatsMarker names := by
  obtain ⟨count, hnames, hleft, hnot⟩ := exists_dropMarkers hne
  constructor
  · intro heq
    rwa [heq] at hnot
  · intro hnames'
    cases count with
    | zero => exact hnames.symm
    | succ count =>
        -- behind a name that was dropped there is another one
        refine absurd ?_ hnames'
        obtain ⟨next, rest, hrest⟩ :=
          List.exists_cons_of_ne_nil (List.append_ne_nil_of_right_ne_nil
            (List.replicate count "~") hleft)
        rw [List.replicate_succ, List.cons_append, hrest] at hnames
        exact ⟨next, rest, hnames⟩

theorem segments_eq_components_iff (p : VirtualPath) :
    p.segments = p.components ↔ ¬RepeatsMarker p.components :=
  dropMarkers_eq_self_iff p.wellFormed.1

theorem mem_components_of_mem_segments {s : String} (h : s ∈ p.segments) : s ∈ p.components := by
  obtain ⟨count, hnames, -, -⟩ := exists_dropMarkers p.wellFormed.1
  rw [hnames]
  exact List.mem_append_right _ h

/-- Segments with slashes between have just these as names. -/
theorem hasNames_segments (p : VirtualPath) : HasNames ("/".intercalate p.segments) p.segments := by
  obtain ⟨-, -, hleft, -⟩ := exists_dropMarkers p.wellFormed.1
  refine hasNames_intercalate hleft (fun name hname => ?_) fun name hname => ?_
  · exact isPathPart_of_mem (mem_components_of_mem_segments hname)
  · exact ne_here_of_mem (mem_components_of_mem_segments hname)

theorem HasNames.eq {names' : List String} (h : HasNames path names) (h' : HasNames path names') :
    names = names' :=
  (hasNames_iff.1 h).trans (hasNames_iff.1 h').symm

/-! ## Segments in the text -/

/-- A text without the markers at its beginning. -/
def behindMarkers : List Char → List Char
  | '~' :: '/' :: rest => behindMarkers rest
  | text => text

theorem behindMarkers_eq_self {chars : List Char} (h : ∀ rest, chars ≠ '~' :: '/' :: rest) :
    behindMarkers chars = chars :=
  behindMarkers.eq_2 chars h

/-- A part of a path before a slash is the marker only if it looks like it. -/
theorem behindMarkers_append {first : String} (hfirst : first ≠ "~") (hpart : IsPathPart first)
    (tail : List Char) :
    behindMarkers (first.toList ++ '/' :: tail) = first.toList ++ '/' :: tail := by
  refine behindMarkers_eq_self fun rest heq => ?_
  obtain ⟨hne, hslash⟩ := hpart
  rcases hchars : first.toList with _ | ⟨c, _ | ⟨d, chars⟩⟩
  · exact hne (by simpa using hchars)
  · rw [hchars] at heq
    obtain rfl : c = '~' := (List.cons.inj heq).1
    exact hfirst (String.toList_inj.1 hchars)
  · rw [hchars] at heq hslash
    obtain rfl : d = '/' := (List.cons.inj (List.cons.inj heq).2).1
    exact hslash (by simp)

theorem behindMarkers_intercalate (hne : names ≠ []) (hparts : ∀ name ∈ names, IsPathPart name) :
    behindMarkers ("/".intercalate names).toList
      = ("/".intercalate (dropMarkers names)).toList := by
  induction names using dropMarkers.induct with
  | case1 next rest ih =>
      have htext : ("/".intercalate ("~" :: next :: rest)).toList
          = '~' :: '/' :: ("/".intercalate (next :: rest)).toList := by
        rw [String.intercalate_cons_cons]
        simp
      rw [dropMarkers, if_pos rfl, htext, behindMarkers]
      exact ih (List.cons_ne_nil next rest) fun name hname =>
        hparts name (List.mem_cons_of_mem _ hname)
  | case2 first next rest hfirst =>
      have htext : ("/".intercalate (first :: next :: rest)).toList
          = first.toList ++ '/' :: ("/".intercalate (next :: rest)).toList := by
        rw [String.intercalate_cons_cons]
        simp
      rw [dropMarkers, if_neg hfirst, htext]
      exact behindMarkers_append hfirst (hparts first List.mem_cons_self) _
  | case3 few hfew =>
      rw [dropMarkers.eq_2 few hfew]
      refine behindMarkers_eq_self fun rest heq => ?_
      rcases few with _ | ⟨name, _ | ⟨next, others⟩⟩
      · exact hne rfl
      · rw [String.intercalate_singleton] at heq
        exact (hparts name List.mem_cons_self).2 (by simp [heq])
      · exact hfew name next others rfl

/-- The segments of a path are the parts of its text behind all that looks like a marker. -/
theorem isSplit_segments (p : VirtualPath) :
    Splitting.IsSplit '/' (String.ofList (behindMarkers p.text.toList)) p.segments := by
  have htext : p.text.toList = '~' :: '/' :: ("/".intercalate p.components).toList := by
    simp [text]
  obtain ⟨-, -, hleft, -⟩ := exists_dropMarkers p.wellFormed.1
  rw [htext, behindMarkers, behindMarkers_intercalate p.wellFormed.1 fun _ => isPathPart_of_mem,
    String.ofList_toList]
  exact isSplit_intercalate hleft fun _ hname =>
    isPathPart_of_mem (mem_components_of_mem_segments hname)

/-! ## Segments and names -/

/-- **The segments of a path are its names, unless the first of several names looks like the
marker.** Then all such names before the last ones are dropped, and the segments spell another
path. -/
theorem segments_eq_names_tfae (hnames : HasNames path names)
    (h : ofRelative path = .ok p ∨ ofText ("~/" ++ path) = .ok p) :
    [p.segments = names, "~/" ++ "/".intercalate p.segments = p.text,
      ofRelative ("/".intercalate p.segments) = .ok p, ¬RepeatsMarker names].TFAE ∧
    ∃ count, names = List.replicate count "~" ++ p.segments ∧ p.segments ≠ [] ∧
      ¬RepeatsMarker p.segments := by
  rw [ofText_marker, or_self, ofRelative_eq_ok_iff] at h
  obtain rfl := hnames.eq h.2
  refine ⟨?_, exists_dropMarkers p.wellFormed.1⟩
  tfae_have 1 → 2 := by
    intro hsegments
    rw [hsegments, text]
  tfae_have 2 → 3 := by
    intro htext
    rw [← ofText_marker, htext, ofText_text]
  tfae_have 3 → 4 := by
    intro hread
    have hcomponents := (ofRelative_eq_ok_iff.1 hread).2
    exact (segments_eq_components_iff p).1 ((hasNames_segments p).eq hcomponents)
  tfae_have 4 → 1 := (segments_eq_components_iff p).2
  tfae_finish

/-- The virtual path of a view. -/
def homeIndex : VirtualPath := ⟨["Views", "Home", "Index.cshtml"], by decide, by decide +kernel⟩

/-- Its segments, read from a spelling with an empty piece and a step to the same directory. -/
theorem segments_homeIndex :
    HasNames "Views/./Home//Index.cshtml" homeIndex.components ∧
      ofRelative "Views/./Home//Index.cshtml" = .ok homeIndex ∧
      homeIndex.segments = homeIndex.components ∧
      "~/" ++ "/".intercalate homeIndex.segments = homeIndex.text ∧
      ofRelative ("/".intercalate homeIndex.segments) = .ok homeIndex := by
  have hnames : HasNames "Views/./Home//Index.cshtml" homeIndex.components :=
    hasNames_iff.2 (by decide +kernel)
  have hread : ofRelative "Views/./Home//Index.cshtml" = .ok homeIndex :=
    ofRelative_eq_ok_iff.2 ⟨by decide, hnames⟩
  have hnot : ¬RepeatsMarker homeIndex.components := by
    rintro ⟨next, rest, heq⟩
    exact absurd (List.cons.inj heq).1 (by decide)
  have htfae := (segments_eq_names_tfae hnames (.inl hread)).1
  exact ⟨hnames, hread, (htfae.out 3 0).1 hnot, (htfae.out 3 1).1 hnot, (htfae.out 3 2).1 hnot⟩

/-- The virtual path of a file in a directory that is called like the marker. -/
def markedFile : VirtualPath := ⟨["~", "a"], by decide, by decide +kernel⟩

/-- That directory is no segment. -/
theorem not_segments_eq_names_markedFile :
    ¬∀ (path : String) (names : List String) (p : VirtualPath), HasNames path names →
      ofRelative path = .ok p → p.segments = names := by
  intro hall
  have hnames : HasNames "~/a" markedFile.components := hasNames_iff.2 (by decide +kernel)
  have hread : ofRelative "~/a" = .ok markedFile := ofRelative_eq_ok_iff.2 ⟨by decide, hnames⟩
  have hsegments := hall "~/a" markedFile.components markedFile hnames hread
  exact (segments_eq_components_iff markedFile).1 hsegments ⟨"a", [], rfl⟩

end VirtualPath

end ControllerCompanion
