import ControllerCompanion.Proofs.Storage.Walk

set_option autoImplicit false

/-! # Where paths lead

A path leads to a place for a file, whether or not the file exists. The place depends on the
fixtures of the tree only (`LeadsTo.congr`), and once a file stands there, looking up the path
finds it (`LeadsTo.walk_eq_ok`). -/

namespace ControllerCompanion.Storage

open Node

variable {root root' : Node} {links : Nat} {trail : Trail} {p : FilePath} {location : Location}

/-- A path leads to an entry of a directory, when as many links may be followed as are left. -/
structure LeadsInto (root : Node) (links : Nat) (trail : Trail) (p : FilePath) (parent : Trail)
    (left : Nat) (entries : List (FileName × Node)) (name : FileName) : Prop where
  walk : walk root links trail p.steps.dropLast = .ok (parent, left)
  node : parent.node root = .directory entries
  last : p.steps.getLast? = some (.into name)
  file : p.asksDirectory = false
  length : ¬longestName < name.bytes.length

/-- A path leads to a place for a file: an entry of a directory that is no fixture, or the place
that a link leads to. -/
inductive LeadsTo (root : Node) : Nat → Trail → FilePath → Location → Prop where
  | entry {links left : Nat} {trail parent : Trail} {p : FilePath}
      {entries : List (FileName × Node)} {name : FileName}
      (into : LeadsInto root links trail p parent left entries name)
      (free : (entries.lookup name).bind fixture? = none) :
      LeadsTo root links trail p (parent.location ++ [name])
  | link {links left : Nat} {trail parent : Trail} {p : FilePath}
      {entries : List (FileName × Node)} {name : FileName} {target : String} {location : Location}
      (into : LeadsInto root links trail p parent (left + 1) entries name)
      (found : entries.lookup name = some (.link target))
      (behind : LeadsTo root left (targetStart parent (.ofText target)) (.ofText target) location) :
      LeadsTo root links trail p location

theorem place_of_leadsInto {parent : Trail} {left : Nat} {entries : List (FileName × Node)}
    {name : FileName} (h : LeadsInto root links trail p parent left entries name) :
    place root links trail p
      = match entries.lookup name, left with
        | some (.directory _), _ => .error .isADirectory
        | some (.link _), 0 => .error .filesystemLoop
        | some (.link target), left + 1 =>
          place root left (targetStart parent (.ofText target)) (.ofText target)
        | _, _ => .ok (parent.location ++ [name]) := by
  rw [place]
  split
  next e he =>
    rw [h.walk] at he
    simp at he
  next other more hwalk =>
    obtain ⟨rfl, rfl⟩ : parent = other ∧ left = more := by simpa [h.walk] using hwalk
    simp only [h.node, h.last, h.file, if_neg h.length, Bool.false_eq_true, if_false]
    cases entries.lookup name with
    | none => rfl
    | some n =>
        cases n with
        | file text => rfl
        | directory inner => rfl
        | link target => cases left <;> rfl

theorem exists_leadsInto_of_place (h : place root links trail p = .ok location) :
    ∃ parent left entries name, LeadsInto root links trail p parent left entries name := by
  rw [place] at h
  split at h
  next => simp at h
  next parent left hwalk =>
    split at h
    next entries name hnode hlast =>
      split at h
      next => simp at h
      next hfile =>
        split at h
        next => simp at h
        next hlength =>
          exact ⟨parent, left, entries, name, hwalk, hnode, hlast, by simpa using hfile, hlength⟩
    next => simp at h
    next => simp at h

/-- **The place of a path is where it leads to.** -/
theorem place_eq_ok_iff : place root links trail p = .ok location ↔
    LeadsTo root links trail p location := by
  constructor
  · intro h
    -- following a link takes from the number of links
    induction links using Nat.strongRecOn generalizing trail p with
    | ind links ih =>
        obtain ⟨parent, left, entries, name, hinto⟩ := exists_leadsInto_of_place h
        rw [place_of_leadsInto hinto] at h
        cases hn : entries.lookup name with
        | none =>
            obtain rfl : _ = location := by simpa [hn] using h
            exact .entry hinto (by rw [hn, Option.bind_none])
        | some n =>
            cases n with
            | file text =>
                obtain rfl : _ = location := by simpa [hn] using h
                exact .entry hinto (by rw [hn]; rfl)
            | directory inner => simp [hn] at h
            | link target =>
                cases left with
                | zero => simp [hn] at h
                | succ left =>
                    have hless : left < links := links_le_of_walk hinto.walk
                    exact .link hinto hn (ih left hless (by simpa [hn] using h))
  · intro h
    induction h with
    | @entry links left trail parent p entries name into free =>
        rw [place_of_leadsInto into]
        cases hn : entries.lookup name with
        | none => rfl
        | some n =>
            rw [hn, Option.bind_some] at free
            obtain ⟨text, rfl⟩ := fixture?_eq_none_iff.1 free
            rfl
    | link into found behind ih =>
        rw [place_of_leadsInto into, found]
        exact ih

/-- A path leads to a free location. -/
theorem LeadsTo.isFree (ht : trail.IsIn root) (h : LeadsTo root links trail p location) :
    root.IsFree location := by
  induction h with
  | entry into free =>
      have hparent := isIn_of_walk ht into.walk
      refine ⟨_, _, rfl, ?_, ?_⟩
      · rw [Trail.fixtureAt_location hparent, into.node]
        rfl
      · rw [fixtureAt, Trail.get?_location_concat hparent into.node, free]
  | link into found behind ih => exact ih (isIn_targetStart (isIn_of_walk ht into.walk) _)

/-- In a tree with the same fixtures, a path leads into the same directory, where the same fixture
has the name. -/
theorem LeadsInto.congr (hsame : SameFixtures root root') {trail' parent : Trail} {left : Nat}
    {entries : List (FileName × Node)} {name : FileName} (ht : trail.IsIn root)
    (ht' : trail'.IsIn root') (hlocation : trail.location = trail'.location)
    (h : LeadsInto root links trail p parent left entries name) :
    ∃ parent' entries', LeadsInto root' links trail' p parent' left entries' name ∧
      parent.location = parent'.location ∧
      (entries'.lookup name).bind fixture? = (entries.lookup name).bind fixture? := by
  have hparent := isIn_of_walk ht h.walk
  have hdirectory : (parent.node root).fixture? = some .directory := by
    rw [h.node]
    rfl
  obtain ⟨parent', hwalk', hsameLocation⟩ :=
    walk_congr hsame.keeps ht ht' hlocation h.walk hdirectory
  have hparent' := isIn_of_walk ht' hwalk'
  obtain ⟨entries', hnode'⟩ := hsame.keeps.exists_entries hparent hparent' hsameLocation hdirectory
  exact ⟨parent', entries', ⟨hwalk', hnode', h.last, h.file, h.length⟩, hsameLocation,
    hsame.entry hparent hparent' hsameLocation h.node hnode' name⟩

/-- **In a tree with the same fixtures, a path leads to the same place.** -/
theorem LeadsTo.congr (hsame : SameFixtures root root') {trail' : Trail} (ht : trail.IsIn root)
    (ht' : trail'.IsIn root') (hlocation : trail.location = trail'.location)
    (h : LeadsTo root links trail p location) : LeadsTo root' links trail' p location := by
  induction h generalizing trail' with
  | entry into free =>
      obtain ⟨parent', entries', into', hparent, hentry⟩ := into.congr hsame ht ht' hlocation
      rw [hparent]
      exact .entry into' (hentry.trans free)
  | link into found behind ih =>
      obtain ⟨parent', entries', into', hparent, hentry⟩ := into.congr hsame ht ht' hlocation
      rw [found] at hentry
      -- the entry is the same link there, with the same target
      obtain ⟨n', hn', hlink⟩ := Option.bind_eq_some_iff.1 hentry
      obtain rfl := fixture?_eq_link_iff.1 hlink
      exact .link into' hn' (ih (isIn_targetStart (isIn_of_walk ht into.walk) _)
        (isIn_targetStart (isIn_of_walk ht' into'.walk) _) (location_targetStart hparent _))

/-- Looking up a path that leads into a directory ends with the entry there. -/
theorem LeadsInto.walk_lookupSteps {parent : Trail} {left : Nat}
    {entries : List (FileName × Node)} {name : FileName}
    (h : LeadsInto root links trail p parent left entries name) :
    Storage.walk root links trail p.lookupSteps
      = Storage.walk root left parent [.into name] := by
  have hsteps : p.lookupSteps = p.steps.dropLast ++ [.into name] := by
    obtain ⟨before, hbefore⟩ := List.getLast?_eq_some_iff.1 h.last
    rw [FilePath.lookupSteps, h.file, hbefore, List.dropLast_concat]
    rfl
  rw [hsteps, walk_append, h.walk]

/-- A file that stands where a path leads to is found by the path. -/
theorem LeadsTo.walk_eq_ok (ht : trail.IsIn root) (h : LeadsTo root links trail p location)
    {text : String} (htext : root.textAt location = some text) :
    ∃ arrived left, walk root links trail p.lookupSteps = .ok (arrived, left) ∧
      arrived.node root = .file text := by
  induction h with
  | @entry links left trail parent p entries name into free =>
      have hparent := isIn_of_walk ht into.walk
      rw [textAt, Trail.get?_location_concat hparent into.node] at htext
      obtain ⟨n, hn, hfile⟩ := Option.bind_eq_some_iff.1 htext
      obtain rfl := text?_eq_some_iff.1 hfile
      refine ⟨(name, .file text) :: parent, left, ?_, rfl⟩
      rw [into.walk_lookupSteps]
      refine walk_of_arrived ?_
      simp only [reach, into.node, hn, if_neg into.length]
  | @link links left trail parent p entries name target location into found behind ih =>
      have hreach : reach root parent [.into name] = .ok (.link parent target []) := by
        simp only [reach, into.node, found, if_neg into.length]
      rw [into.walk_lookupSteps, walk_succ_of_link hreach, List.append_nil]
      exact ih (isIn_targetStart (isIn_of_walk ht into.walk) _) htext

end ControllerCompanion.Storage
