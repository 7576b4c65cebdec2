import ControllerCompanion.Proofs.Storage.Places

set_option autoImplicit false

/-! # Writing and reading files

Writing a file gives its place the text, and changes neither the other texts nor where paths lead
(`writeText_eq_ok`). Reading a path gives the text at its place (`readText_of_placeOf?`). -/

namespace ControllerCompanion.Storage

open Node

variable {s s' : Storage} {p : FilePath} {location : Location} {text : String}

/-- The location of the file that a path leads to, if it can be written. -/
def placeOf? (s : Storage) (p : FilePath) : Option Location :=
  match checkPath p with
  | .error _ => none
  | .ok () => (place s.root linkLimit [] (s.absolute p)).toOption

theorem placeOf?_eq_some_iff :
    s.placeOf? p = some location ↔
      checkPath p = .ok () ∧ LeadsTo s.root linkLimit [] (s.absolute p) location := by
  rw [← place_eq_ok_iff, placeOf?]
  cases checkPath p with
  | error e => simp
  | ok u =>
      cases place s.root linkLimit [] (s.absolute p) with
      | error e => simp [Except.toOption]
      | ok other => simp [Except.toOption]

/-- The two storages differ in the texts of files only. -/
structure Alike (s s' : Storage) : Prop where
  fixtures : SameFixtures s.root s'.root
  workingDirectory : s.workingDirectory = s'.workingDirectory

theorem Alike.symm (h : Alike s s') : Alike s' s :=
  ⟨h.fixtures.symm, h.workingDirectory.symm⟩

theorem Alike.trans {s'' : Storage} (h : Alike s s') (h' : Alike s' s'') : Alike s s'' :=
  ⟨fun other => (h.fixtures other).trans (h'.fixtures other),
    h.workingDirectory.trans h'.workingDirectory⟩

/-- A path has the same place in storages that differ in texts only. -/
theorem Alike.placeOf? (h : Alike s s') (p : FilePath) : s.placeOf? p = s'.placeOf? p := by
  -- both directions are the same, since the storages differ in nothing that a path meets
  have hplace {t t' : Storage} (ht : Alike t t') {location : Location}
      (hsome : t.placeOf? p = some location) : t'.placeOf? p = some location := by
    obtain ⟨hcheck, hleads⟩ := placeOf?_eq_some_iff.1 hsome
    have habsolute : t.absolute p = t'.absolute p := by
      rw [absolute, absolute, ht.workingDirectory]
    rw [habsolute] at hleads
    have hsame := hleads.congr ht.fixtures (Trail.isIn_nil _) (Trail.isIn_nil _) rfl
    exact placeOf?_eq_some_iff.2 ⟨hcheck, hsame⟩
  refine Option.ext fun location => ?_
  exact ⟨hplace h, hplace h.symm⟩

/-- **Writing a file changes the text at its place, and nothing else.** -/
theorem writeText_eq_ok (h : s.writeText p text = .ok s') :
    ∃ location, s.placeOf? p = some location ∧ Alike s s' ∧
      ∀ other, s'.root.textAt other
        = if other = location then some text else s.root.textAt other := by
  unfold writeText at h
  split at h
  next => simp at h
  next hcheck =>
    split at h
    next => simp at h
    next location hplace =>
      obtain rfl : s.put location (.file text) = s' := by simpa using h
      have hleads := place_eq_ok_iff.1 hplace
      have hfree := hleads.isFree (Trail.isIn_nil _)
      refine ⟨location, placeOf?_eq_some_iff.2 ⟨hcheck, hleads⟩, ⟨fun other => ?_, rfl⟩, ?_⟩
      · exact (fixtureAt_put hfree text other).symm
      · exact textAt_put hfree text

/-- **Reading a path gives the text at its place.** -/
theorem readText_of_placeOf? (h : s.placeOf? p = some location)
    (htext : s.root.textAt location = some text) : s.readText p = .ok text := by
  obtain ⟨hcheck, hleads⟩ := placeOf?_eq_some_iff.1 h
  obtain ⟨arrived, left, hwalk, hnode⟩ := hleads.walk_eq_ok (Trail.isIn_nil _) htext
  have hfollow : s.follow (s.absolute p).lookupSteps = .ok arrived := by
    rw [follow, hwalk]
    rfl
  simp only [readText, hcheck, hfollow, hnode]

/-! ## Files in one directory -/

/-- The target of the link that has the last name of a path. -/
def linkAt? (s : Storage) (p : FilePath) : Option String :=
  match walk s.root linkLimit [] (s.absolute p).steps.dropLast, p.steps.getLast? with
  | .ok (parent, _), some (.into name) =>
    match (parent.node s.root).get? [name] with
    | some (.link target) => some target
    | _ => none
  | _, _ => none

theorem steps_absolute_child (s : Storage) (p : FilePath) (name : FileName) :
    (s.absolute (p.child name)).steps = (s.absolute p).steps ++ [.into name] := by
  unfold absolute
  by_cases h : p.isAbsolute = true
  · rw [if_pos h, if_pos (by exact h)]
    rfl
  · rw [if_neg h, if_neg (by exact h)]
    simp [FilePath.child]

/-- The place of a name in a directory, where it is no link. -/
theorem placeOf?_child {name : FileName} (h : s.placeOf? (p.child name) = some location)
    (hlink : s.linkAt? (p.child name) = none) :
    ∃ parent left, walk s.root linkLimit [] (s.absolute p).steps = .ok (parent, left) ∧
      location = parent.location ++ [name] := by
  have hsteps : (s.absolute (p.child name)).steps.dropLast = (s.absolute p).steps := by
    rw [steps_absolute_child, List.dropLast_concat]
  obtain ⟨-, hleads⟩ := placeOf?_eq_some_iff.1 h
  cases hleads with
  | @entry _ left _ parent _ entries other into free =>
      have hlast := into.last
      rw [steps_absolute_child, List.getLast?_concat] at hlast
      obtain rfl : name = other := by simpa using hlast
      exact ⟨parent, left, hsteps ▸ into.walk, rfl⟩
  | @link _ left _ parent _ entries other target _ into found behind =>
      -- the link would be one under the last name
      have hlast := into.last
      rw [steps_absolute_child, List.getLast?_concat] at hlast
      obtain rfl : name = other := by simpa using hlast
      have hname : (p.child name).steps.getLast? = some (.into name) := by simp [FilePath.child]
      simp [linkAt?, into.walk, hname, into.node, get?_singleton, found] at hlink

end ControllerCompanion.Storage
