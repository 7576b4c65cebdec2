import ControllerCompanion.Proofs.Outcome
import ControllerCompanion.Proofs.Storage.Writing

set_option autoImplicit false

/-! # Making directories

What is made for the directory that steps lead to are directories only, where nothing stood before,
and each of them lies on the way (`makesOnly_makeDirectories`). The directories that are there, and
all links, stay, so whatever led somewhere before still does. -/

namespace ControllerCompanion.Storage

open Node

variable {s s' s'' : Storage} {steps : List Step} {location : Location}

/-! ## Storages compared -/

/-- The same stands at a location in both storages, apart from the entries of a directory. -/
structure SameAt (s s' : Storage) (location : Location) : Prop where
  fixture : s.root.fixtureAt location = s'.root.fixtureAt location
  text : s.root.textAt location = s'.root.textAt location

/-- A directory of the second storage, where nothing stood in the first one. It lies on the way
    that steps lead. -/
structure IsMade (s s' : Storage) (steps : List Step) (location : Location) : Prop where
  absent : s.root.get? location = none
  directory : s'.root.fixtureAt location = some .directory
  onWay : ∃ first trail, first <+: steps ∧ s'.follow first = .ok trail ∧ trail.location = location

/-- The second storage is the first one with further directories, on the way that steps lead. -/
structure MakesOnly (s s' : Storage) (steps : List Step) : Prop where
  workingDirectory : s.workingDirectory = s'.workingDirectory
  made : ∀ location, SameAt s s' location ∨ IsMade s s' steps location

theorem SameAt.trans (h : SameAt s s' location) (h' : SameAt s' s'' location) :
    SameAt s s'' location :=
  ⟨h.fixture.trans h'.fixture, h.text.trans h'.text⟩

/-- Nothing stands where there is neither a fixture nor a text. -/
theorem get?_eq_none_iff {root : Node} :
    root.get? location = none ↔ root.fixtureAt location = none ∧ root.textAt location = none := by
  unfold fixtureAt textAt
  cases root.get? location with
  | none => simp
  | some n => cases n <;> simp [fixture?, text?]

theorem SameAt.get?_eq_none (h : SameAt s s' location) (hnone : s'.root.get? location = none) :
    s.root.get? location = none := by
  rw [get?_eq_none_iff] at hnone ⊢
  exact ⟨h.fixture.trans hnone.1, h.text.trans hnone.2⟩

theorem MakesOnly.refl (s : Storage) (steps : List Step) : MakesOnly s s steps :=
  ⟨rfl, fun _ => .inl ⟨rfl, rfl⟩⟩

theorem MakesOnly.keeps (h : MakesOnly s s' steps) : KeepsFixtures s.root s'.root := by
  intro location f hf
  rcases h.made location with hsame | hmade
  · exact hsame.fixture.symm.trans hf
  · have habsent := (get?_eq_none_iff.1 hmade.absent).1
    rw [habsent] at hf
    cases hf

/-! ## Ways that stay -/

theorem isIn_of_follow {trail : Trail} (h : s.follow steps = .ok trail) : trail.IsIn s.root := by
  obtain ⟨⟨arrived, left⟩, hwalk, rfl⟩ := map_eq_ok_iff.1 h
  exact isIn_of_walk (Trail.isIn_nil _) hwalk

/-- In a storage that keeps the fixtures, the same steps lead to the same directory. -/
theorem exists_follow_of_keeps (hkeeps : KeepsFixtures s.root s'.root) {trail : Trail}
    (h : s.follow steps = .ok trail) (hnode : (trail.node s.root).fixture? = some .directory) :
    ∃ trail', s'.follow steps = .ok trail' ∧ trail'.location = trail.location := by
  obtain ⟨⟨arrived, left⟩, hwalk, rfl⟩ := map_eq_ok_iff.1 h
  obtain ⟨arrived', hwalk', hlocation⟩ :=
    walk_congr hkeeps (Trail.isIn_nil _) (Trail.isIn_nil _) rfl hwalk hnode
  refine ⟨arrived', ?_, hlocation.symm⟩
  rw [follow, hwalk']
  rfl

theorem IsMade.of_keeps (h : IsMade s s' steps location)
    (hkeeps : KeepsFixtures s'.root s''.root) : IsMade s s'' steps location := by
  obtain ⟨first, trail, hbegins, hfollow, rfl⟩ := h.onWay
  have hnode : (trail.node s'.root).fixture? = some .directory := by
    rw [← Trail.fixtureAt_location (isIn_of_follow hfollow), h.directory]
  obtain ⟨trail', hfollow', hlocation⟩ := exists_follow_of_keeps hkeeps hfollow hnode
  exact ⟨h.absent, hkeeps _ _ h.directory, first, trail', hbegins, hfollow', hlocation⟩

theorem MakesOnly.trans (h : MakesOnly s s' steps) (h' : MakesOnly s' s'' steps) :
    MakesOnly s s'' steps := by
  refine ⟨h.workingDirectory.trans h'.workingDirectory, fun location => ?_⟩
  rcases h.made location with hsame | hmade
  · rcases h'.made location with hsame' | hmade'
    · exact .inl (hsame.trans hsame')
    · exact .inr ⟨hsame.get?_eq_none hmade'.absent, hmade'.directory, hmade'.onWay⟩
  · exact .inr (hmade.of_keeps h'.keeps)

theorem MakesOnly.mono {first : List Step} (h : MakesOnly s s' first) (hbegins : first <+: steps) :
    MakesOnly s s' steps := by
  refine ⟨h.workingDirectory, fun location => (h.made location).imp_right fun hmade => ?_⟩
  obtain ⟨before, trail, hbefore, hway⟩ := hmade.onWay
  exact ⟨hmade.absent, hmade.directory, before, trail, hbefore.trans hbegins, hway⟩

/-! ## Making directories -/

/-- What is put at a free location leaves all fixtures where they are. -/
theorem keepsFixtures_put {root new : Node} (hfree : root.IsFree location) (hnew : new.IsBare) :
    KeepsFixtures root (Node.put new root location) := by
  intro other f hf
  rw [fixtureAt_put_of_isBare hfree hnew]
  obtain ⟨_, _, _, _, hnone⟩ := hfree
  by_cases hother : other = location
  · rw [hother, hnone] at hf
    cases hf
  · rw [if_neg hother, hf]

theorem exists_of_makeDirectory (h : s.makeDirectory steps = .ok s') :
    ∃ before name trail entries, steps = before ++ [.into name] ∧ s.follow before = .ok trail ∧
      trail.node s.root = .directory entries ∧ ¬longestName < name.bytes.length ∧
      entries.lookup name = none ∧ s' = s.put (trail.location ++ [name]) (.directory []) := by
  unfold makeDirectory at h
  split at h
  next => cases h
  next trail hfollow =>
  split at h
  next entries name hnode hlast =>
    split at h
    next => cases h
    next hlength =>
    split at h
    next => cases h
    next hfree =>
    cases h
    obtain ⟨before, rfl⟩ := List.getLast?_eq_some_iff.1 hlast
    rw [List.dropLast_concat] at hfollow
    exact ⟨before, name, trail, entries, rfl, hfollow, hnode, hlength,
      Option.not_isSome_iff_eq_none.1 hfree, rfl⟩
  next => cases h
  next => cases h

/-- A step into a directory below the one that steps lead to. -/
theorem follow_concat {before : List Step} {trail : Trail} {entries inner : List (FileName × Node)}
    {name : FileName} (h : s.follow before = .ok trail)
    (hnode : trail.node s.root = .directory entries) (hlength : ¬longestName < name.bytes.length)
    (hn : entries.lookup name = some (.directory inner)) :
    s.follow (before ++ [.into name]) = .ok ((name, .directory inner) :: trail) := by
  obtain ⟨⟨arrived, left⟩, hwalk, rfl⟩ := map_eq_ok_iff.1 h
  have hreach : reach s.root arrived [.into name]
      = .ok (.arrived ((name, .directory inner) :: arrived)) := by
    simp only [reach, hnode, hn, if_neg hlength]
  rw [follow, walk_append, hwalk]
  simp only [walk_of_arrived hreach, Except.map]

/-- Making a directory gives the last of the steps something to lead to, and changes nothing
else. -/
theorem makesOnly_of_makeDirectory (h : s.makeDirectory steps = .ok s') :
    MakesOnly s s' steps := by
  obtain ⟨before, name, trail, entries, rfl, hfollow, hnode, hlength, hlookup, rfl⟩ :=
    exists_of_makeDirectory h
  have htrail := isIn_of_follow hfollow
  have hdirectory : (trail.node s.root).fixture? = some .directory := by
    rw [hnode]
    rfl
  have habsent : s.root.get? (trail.location ++ [name]) = none := by
    rw [Trail.get?_location_concat htrail hnode, hlookup]
  have hfree : s.root.IsFree (trail.location ++ [name]) :=
    ⟨_, _, rfl, (Trail.fixtureAt_location htrail).trans hdirectory, (get?_eq_none_iff.1 habsent).1⟩
  have hfixture := fixtureAt_put_of_isBare hfree isBare_directory
  have htext := textAt_put_of_isBare hfree isBare_directory
  have hkeeps : KeepsFixtures s.root (s.put (trail.location ++ [name]) (.directory [])).root :=
    keepsFixtures_put hfree isBare_directory
  refine ⟨rfl, fun other => ?_⟩
  by_cases hother : other = trail.location ++ [name]
  · subst hother
    have hmade := (hfixture (trail.location ++ [name])).trans (if_pos rfl)
    -- the steps before the last one lead where they did, and the new directory is there
    obtain ⟨trail', hfollow', hlocation⟩ := exists_follow_of_keeps hkeeps hfollow hdirectory
    have htrail' := isIn_of_follow hfollow'
    obtain ⟨entries', hnode'⟩ :=
      hkeeps.exists_entries htrail htrail' hlocation.symm hdirectory
    have hentry : (entries'.lookup name).bind fixture? = some .directory := by
      rw [← Trail.fixtureAt_location_concat htrail' hnode', hlocation]
      exact hmade
    obtain ⟨n, hn, hinner⟩ := Option.bind_eq_some_iff.1 hentry
    obtain ⟨inner, rfl⟩ := fixture?_eq_directory_iff.1 hinner
    refine .inr ⟨habsent, hmade, _, _, List.prefix_refl _,
      follow_concat hfollow' hnode' hlength hn, ?_⟩
    rw [Trail.location_cons, hlocation]
  · refine .inl ⟨?_, ?_⟩
    · exact ((hfixture other).trans (if_neg hother)).symm
    · exact ((htext other).trans (if_neg hother)).symm

theorem prefix_reverse_parentBackwards (steps : List Step) :
    (FilePath.parentBackwards steps).reverse <+: steps.reverse := by
  rw [List.reverse_prefix]
  exact (List.dropWhile_suffix _).trans ((List.tail_suffix _).trans (List.dropWhile_suffix _))

theorem makesOnly_makeDirectoriesBackwards (s : Storage) (steps : List Step) :
    MakesOnly s (s.makeDirectoriesBackwards steps).2 steps.reverse := by
  fun_induction makeDirectoriesBackwards s steps with
  | case1 => exact .refl s _
  | case2 step rest path made hmake => exact makesOnly_of_makeDirectory hmake
  | case3 step rest path _ e parents hparents ih =>
      -- what was made of the way stays, though the rest cannot be made
      rw [hparents] at ih
      exact ih.mono (prefix_reverse_parentBackwards _)
  | case4 step rest path _ parents hparents made hmake ih =>
      rw [hparents] at ih
      exact (ih.mono (prefix_reverse_parentBackwards _)).trans (makesOnly_of_makeDirectory hmake)
  | case5 step rest path settle _ parents hparents e _ ih =>
      rw [hparents] at ih
      exact ih.mono (prefix_reverse_parentBackwards _)
  | case6 => exact .refl s _

/-- **Making the directories of a path makes directories on its way only**, also if it fails. -/
theorem makesOnly_makeDirectories (s : Storage) (p : FilePath) :
    MakesOnly s (s.makeDirectories p).2 (s.absolute p).steps := by
  unfold makeDirectories
  split
  · exact .refl s _
  split
  · exact .refl s _
  · simpa using makesOnly_makeDirectoriesBackwards s (s.absolute p).steps.reverse

end ControllerCompanion.Storage
