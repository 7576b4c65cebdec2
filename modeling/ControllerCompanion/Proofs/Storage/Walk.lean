import ControllerCompanion.Proofs.Storage.Tree
import ControllerCompanion.Storage.Basic

set_option autoImplicit false

/-! # Where steps lead

A walk depends on the fixtures of a tree only: in a tree with the same fixtures, or with further
ones, the same steps lead to the same directories (`walk_congr`). -/

namespace ControllerCompanion

namespace Trail

/-! ## Trails in a tree -/

/-- The trail passes the nodes that stand in the tree. -/
def IsIn (root : Node) : Trail → Prop
  | [] => True
  | (name, n) :: rest => IsIn root rest ∧ root.get? (location rest ++ [name]) = some n

variable {root root' : Node} {trail trail' : Trail}

@[simp] theorem location_cons (name : FileName) (n : Node) (rest : Trail) :
    location ((name, n) :: rest) = location rest ++ [name] := by
  simp [location]

theorem location_tail (trail : Trail) : location trail.tail = (location trail).dropLast := by
  cases trail with
  | nil => rfl
  | cons entry rest => simp [location]

theorem get?_location (h : IsIn root trail) :
    root.get? (location trail) = some (node root trail) := by
  cases trail with
  | nil => exact Node.get?_nil root
  | cons entry rest =>
      rw [location_cons]
      exact h.2

theorem fixtureAt_location (h : IsIn root trail) :
    root.fixtureAt (location trail) = (node root trail).fixture? := by
  rw [Node.fixtureAt, get?_location h, Option.bind_some]

/-- What stands at an entry of the directory that a trail leads to. -/
theorem get?_location_concat (h : IsIn root trail) {entries : List (FileName × Node)}
    (hnode : node root trail = .directory entries) (name : FileName) :
    root.get? (location trail ++ [name]) = entries.lookup name := by
  rw [Node.get?_append, get?_location h, hnode, Option.bind_some, Node.get?_singleton]

theorem fixtureAt_location_concat (h : IsIn root trail) {entries : List (FileName × Node)}
    (hnode : node root trail = .directory entries) (name : FileName) :
    root.fixtureAt (location trail ++ [name]) = (entries.lookup name).bind Node.fixture? := by
  rw [Node.fixtureAt, get?_location_concat h hnode]

theorem isIn_nil (root : Node) : IsIn root [] := trivial

theorem IsIn.tail (h : IsIn root trail) : IsIn root trail.tail := by
  cases trail with
  | nil => exact h
  | cons entry rest => exact h.1

theorem IsIn.cons (h : IsIn root trail) {entries : List (FileName × Node)}
    (hnode : node root trail = .directory entries) {name : FileName} {n : Node}
    (hn : entries.lookup name = some n) : IsIn root ((name, n) :: trail) :=
  ⟨h, by rw [get?_location_concat h hnode, hn]⟩

end Trail

namespace Node

/-- The two trees have the same directories and links. -/
def SameFixtures (root root' : Node) : Prop :=
  ∀ location, root.fixtureAt location = root'.fixtureAt location

/-- The directories and links of the first tree are those of the second one, which may have
    more. -/
def KeepsFixtures (root root' : Node) : Prop :=
  ∀ location f, root.fixtureAt location = some f → root'.fixtureAt location = some f

variable {root root' : Node}

theorem SameFixtures.symm (h : SameFixtures root root') : SameFixtures root' root :=
  fun location => (h location).symm

theorem SameFixtures.keeps (h : SameFixtures root root') : KeepsFixtures root root' :=
  fun location _ hf => (h location).symm.trans hf

/-- A directory that a trail leads to is one in the other tree. -/
theorem KeepsFixtures.exists_entries (h : KeepsFixtures root root') {trail trail' : Trail}
    (ht : trail.IsIn root) (ht' : trail'.IsIn root') (hlocation : trail.location = trail'.location)
    (hnode : (trail.node root).fixture? = some .directory) :
    ∃ entries, trail'.node root' = .directory entries := by
  refine fixture?_eq_directory_iff.1 ?_
  rw [← Trail.fixtureAt_location ht', ← hlocation]
  refine h _ _ ?_
  rw [Trail.fixtureAt_location ht, hnode]

/-- An entry of a directory that is a fixture is the same one in the other tree. -/
theorem KeepsFixtures.entry (h : KeepsFixtures root root') {trail trail' : Trail}
    (ht : trail.IsIn root) (ht' : trail'.IsIn root') (hlocation : trail.location = trail'.location)
    {entries entries' : List (FileName × Node)} (hnode : trail.node root = .directory entries)
    (hnode' : trail'.node root' = .directory entries') {name : FileName} {f : Fixture}
    (hf : (entries.lookup name).bind fixture? = some f) :
    (entries'.lookup name).bind fixture? = some f := by
  rw [← Trail.fixtureAt_location_concat ht' hnode', ← hlocation]
  refine h _ _ ?_
  rw [Trail.fixtureAt_location_concat ht hnode, hf]

/-- An entry of a directory is the same fixture in the other tree. -/
theorem SameFixtures.entry (h : SameFixtures root root') {trail trail' : Trail}
    (ht : trail.IsIn root) (ht' : trail'.IsIn root') (hlocation : trail.location = trail'.location)
    {entries entries' : List (FileName × Node)} (hnode : trail.node root = .directory entries)
    (hnode' : trail'.node root' = .directory entries') (name : FileName) :
    (entries'.lookup name).bind fixture? = (entries.lookup name).bind fixture? := by
  rw [← Trail.fixtureAt_location_concat ht' hnode', ← hlocation, ← h,
    Trail.fixtureAt_location_concat ht hnode]

end Node

namespace Storage

open Node

variable {root root' : Node}

/-! ## Steps without links -/

/-- The trail that a reach ends with. -/
def Reach.trail : Reach → Trail
  | .arrived trail => trail
  | .link parent _ _ => parent

/-- What a reach tells apart from nodes: its location, and the link that it stops at. -/
def Reach.summary : Reach → Location × Option (String × List Step)
  | .arrived trail => (trail.location, none)
  | .link parent target behind => (parent.location, some (target, behind))

/-- The reach ends at a directory, or at a link in one. -/
def Reach.IsSettled (root : Node) : Reach → Prop
  | .arrived trail => (trail.node root).fixture? = some .directory
  | .link _ _ _ => True

theorem isIn_of_reach {trail : Trail} {steps : List Step} {r : Reach} (ht : trail.IsIn root)
    (h : reach root trail steps = .ok r) : r.trail.IsIn root := by
  induction steps generalizing trail with
  | nil =>
      obtain rfl : .arrived trail = r := by simpa [reach] using h
      exact ht
  | cons step rest ih =>
      rw [reach] at h
      split at h
      next entries hnode =>
        cases step with
        | here => exact ih ht h
        | up => exact ih ht.tail h
        | into name =>
            simp only at h
            split at h
            · simp at h
            · split at h
              next => simp at h
              next target htarget =>
                obtain rfl : .link trail target rest = r := by simpa using h
                exact ht
              next n _ hn => exact ih (ht.cons hnode hn) h
      next => simp at h

/-- Nothing is stepped through but directories. -/
theorem steps_eq_nil_of_reach {trail : Trail} {steps : List Step} {r : Reach}
    (h : reach root trail steps = .ok r) (hnode : (trail.node root).fixture? ≠ some .directory) :
    steps = [] ∧ r = .arrived trail := by
  cases steps with
  | nil =>
      obtain rfl : .arrived trail = r := by simpa [reach] using h
      exact ⟨rfl, rfl⟩
  | cons step rest =>
      rw [reach] at h
      split at h
      next entries hentries => exact absurd (fixture?_eq_directory_iff.2 ⟨entries, hentries⟩) hnode
      next => simp at h

/-- In a tree that keeps the fixtures, the same steps reach as far. -/
theorem reach_congr (hkeeps : KeepsFixtures root root') {trail trail' : Trail}
    (ht : trail.IsIn root) (ht' : trail'.IsIn root') (hlocation : trail.location = trail'.location)
    {steps : List Step} {r : Reach} (h : reach root trail steps = .ok r)
    (hsettled : r.IsSettled root) :
    ∃ r', reach root' trail' steps = .ok r' ∧ r'.summary = r.summary := by
  -- the two trails stay at one location, though the nodes that they pass may differ
  induction steps generalizing trail trail' with
  | nil =>
      obtain rfl : .arrived trail = r := by simpa [reach] using h
      exact ⟨.arrived trail', rfl, by rw [Reach.summary, Reach.summary, hlocation]⟩
  | cons step rest ih =>
      have hdirectory : (trail.node root).fixture? = some .directory := by
        by_cases hnot : (trail.node root).fixture? = some .directory
        · exact hnot
        · exact absurd (steps_eq_nil_of_reach h hnot).1 (List.cons_ne_nil _ _)
      obtain ⟨entries, hnode⟩ := fixture?_eq_directory_iff.1 hdirectory
      obtain ⟨entries', hnode'⟩ := hkeeps.exists_entries ht ht' hlocation hdirectory
      rw [reach, hnode] at h
      rw [reach, hnode']
      cases step with
      | here => exact ih ht ht' hlocation h
      | up =>
          refine ih ht.tail ht'.tail ?_ h
          rw [Trail.location_tail, Trail.location_tail, hlocation]
      | into name =>
          simp only at h ⊢
          split at h
          · simp at h
          next hlength =>
            rw [if_neg hlength]
            cases hn : entries.lookup name with
            | none => simp [hn] at h
            | some n =>
                have hentry {f : Fixture} (hf : n.fixture? = some f) :
                    (entries'.lookup name).bind fixture? = some f :=
                  hkeeps.entry ht ht' hlocation hnode hnode' (by rw [hn, Option.bind_some, hf])
                rw [hn] at h
                cases n with
                | file text =>
                    -- the walk would end at the file, which is not settled
                    obtain ⟨-, rfl⟩ := steps_eq_nil_of_reach h (by simp [Trail.node, fixture?])
                    simp [Reach.IsSettled, Trail.node, fixture?] at hsettled
                | link target =>
                    obtain rfl : .link trail target rest = r := by simpa using h
                    obtain ⟨n', hn', hlink⟩ := Option.bind_eq_some_iff.1 (hentry rfl)
                    obtain rfl := fixture?_eq_link_iff.1 hlink
                    rw [hn']
                    exact ⟨_, rfl, by rw [Reach.summary, Reach.summary, hlocation]⟩
                | directory inner =>
                    obtain ⟨n', hn', hinner⟩ := Option.bind_eq_some_iff.1 (hentry rfl)
                    obtain ⟨inner', rfl⟩ := fixture?_eq_directory_iff.1 hinner
                    rw [hn']
                    refine ih (ht.cons hnode hn) (ht'.cons hnode' hn') ?_ h
                    rw [Trail.location_cons, Trail.location_cons, hlocation]

theorem exists_arrived_congr (hkeeps : KeepsFixtures root root') {trail trail' arrived : Trail}
    (ht : trail.IsIn root) (ht' : trail'.IsIn root') (hlocation : trail.location = trail'.location)
    {steps : List Step} (h : reach root trail steps = .ok (.arrived arrived))
    (harrived : (arrived.node root).fixture? = some .directory) :
    ∃ arrived', reach root' trail' steps = .ok (.arrived arrived') ∧
      arrived.location = arrived'.location := by
  obtain ⟨r', hreach', hsummary⟩ := reach_congr hkeeps ht ht' hlocation h harrived
  cases r' with
  | arrived arrived' =>
      simp only [Reach.summary, Prod.mk.injEq] at hsummary
      exact ⟨arrived', hreach', hsummary.1.symm⟩
  | link parent target behind => simp [Reach.summary] at hsummary

theorem exists_link_congr (hkeeps : KeepsFixtures root root') {trail trail' parent : Trail}
    (ht : trail.IsIn root) (ht' : trail'.IsIn root') (hlocation : trail.location = trail'.location)
    {steps behind : List Step} {target : String}
    (h : reach root trail steps = .ok (.link parent target behind)) :
    ∃ parent', reach root' trail' steps = .ok (.link parent' target behind) ∧
      parent.location = parent'.location := by
  obtain ⟨r', hreach', hsummary⟩ := reach_congr hkeeps ht ht' hlocation h trivial
  cases r' with
  | arrived arrived => simp [Reach.summary] at hsummary
  | link parent' target' behind' =>
      simp only [Reach.summary, Prod.mk.injEq, Option.some.injEq] at hsummary
      obtain ⟨hparent, rfl, rfl⟩ := hsummary
      exact ⟨parent', hreach', hparent.symm⟩

theorem reach_append (trail : Trail) (first second : List Step) :
    reach root trail (first ++ second)
      = match reach root trail first with
        | .error e => .error e
        | .ok (.arrived trail) => reach root trail second
        | .ok (.link parent target behind) => .ok (.link parent target (behind ++ second)) := by
  induction first generalizing trail with
  | nil => rfl
  | cons step rest ih =>
      rw [List.cons_append, reach.eq_def, reach.eq_def root trail (step :: rest)]
      cases trail.node root with
      | file text => rfl
      | link target => rfl
      | directory entries =>
          cases step with
          | here => exact ih trail
          | up => exact ih trail.tail
          | into name =>
              simp only
              split
              · rfl
              · cases entries.lookup name with
                | none => rfl
                | some n =>
                    cases n with
                    | file text => exact ih _
                    | link target => rfl
                    | directory inner => exact ih _

/-! ## Steps with links -/

section Walk

variable {links left : Nat} {trail arrived parent : Trail} {steps behind : List Step}
  {target : String}

theorem walk_of_arrived (h : reach root trail steps = .ok (.arrived arrived)) :
    walk root links trail steps = .ok (arrived, links) := by
  rw [walk.eq_def, h]

theorem walk_zero_of_link (h : reach root trail steps = .ok (.link parent target behind)) :
    walk root 0 trail steps = .error .filesystemLoop := by
  rw [walk.eq_def, h]

theorem walk_succ_of_link (h : reach root trail steps = .ok (.link parent target behind)) :
    walk root (links + 1) trail steps
      = walk root links (targetStart parent (.ofText target))
          ((FilePath.ofText target).lookupSteps ++ behind) := by
  rw [walk.eq_def, h]

theorem walk_of_error {e : IoError} (h : reach root trail steps = .error e) :
    walk root links trail steps = .error e := by
  rw [walk.eq_def, h]

/-- A walk arrives, without a link or behind the first one. -/
inductive Walks (root : Node) : Nat → Trail → List Step → Trail → Nat → Prop where
  | arrived {links : Nat} {trail arrived : Trail} {steps : List Step}
      (reached : reach root trail steps = .ok (.arrived arrived)) :
      Walks root links trail steps arrived links
  | link {links left : Nat} {trail parent arrived : Trail} {steps behind : List Step}
      {target : String} (reached : reach root trail steps = .ok (.link parent target behind))
      (further : Walks root links (targetStart parent (.ofText target))
        ((FilePath.ofText target).lookupSteps ++ behind) arrived left) :
      Walks root (links + 1) trail steps arrived left

theorem walk_eq_ok_iff :
    walk root links trail steps = .ok (arrived, left) ↔
      Walks root links trail steps arrived left := by
  constructor
  · intro h
    -- following a link takes from the number of links
    induction links using Nat.strongRecOn generalizing trail steps with
    | ind links ih =>
        cases hreach : reach root trail steps with
        | error e => simp [walk_of_error hreach] at h
        | ok r =>
            cases r with
            | arrived other =>
                obtain ⟨rfl, rfl⟩ : other = arrived ∧ links = left := by
                  simpa [walk_of_arrived hreach] using h
                exact .arrived hreach
            | link parent target behind =>
                cases links with
                | zero => simp [walk_zero_of_link hreach] at h
                | succ links =>
                    rw [walk_succ_of_link hreach] at h
                    exact .link hreach (ih links (Nat.lt_succ_self links) h)
  · intro h
    induction h with
    | arrived reached => exact walk_of_arrived reached
    | link reached further ih => rw [walk_succ_of_link reached, ih]

/-- Steps can be taken one part after the other. -/
theorem walk_append (links : Nat) (trail : Trail) (first second : List Step) :
    walk root links trail (first ++ second)
      = match walk root links trail first with
        | .error e => .error e
        | .ok (arrived, left) => walk root left arrived second := by
  have happend := @reach_append root trail first second
  cases hreach : reach root trail first with
  | error e =>
      rw [hreach] at happend
      rw [walk_of_error happend, walk_of_error hreach]
  | ok r =>
      rw [hreach] at happend
      cases r with
      | arrived other =>
          rw [walk_of_arrived hreach]
          unfold walk
          rw [happend]
      | link parent target behind =>
          cases links with
          | zero => rw [walk_zero_of_link happend, walk_zero_of_link hreach]
          | succ links =>
              rw [walk_succ_of_link happend, walk_succ_of_link hreach, ← List.append_assoc]
              exact walk_append links _ _ second

theorem isIn_targetStart (h : parent.IsIn root) (target : FilePath) :
    (targetStart parent target).IsIn root := by
  unfold targetStart
  split
  · exact trivial
  · exact h

theorem location_targetStart {parent' : Trail} (h : parent.location = parent'.location)
    (target : FilePath) :
    (targetStart parent target).location = (targetStart parent' target).location := by
  unfold targetStart
  split
  · rfl
  · exact h

theorem isIn_of_walk (ht : trail.IsIn root)
    (h : walk root links trail steps = .ok (arrived, left)) : arrived.IsIn root := by
  rw [walk_eq_ok_iff] at h
  induction h with
  | arrived reached => exact isIn_of_reach ht reached
  | link reached further ih => exact ih (isIn_targetStart (isIn_of_reach ht reached) _)

/-- **In a tree that keeps the fixtures, the same steps lead to the same directories.** -/
theorem walk_congr (hkeeps : KeepsFixtures root root') {trail' : Trail} (ht : trail.IsIn root)
    (ht' : trail'.IsIn root') (hlocation : trail.location = trail'.location)
    (h : walk root links trail steps = .ok (arrived, left))
    (harrived : (arrived.node root).fixture? = some .directory) :
    ∃ arrived', walk root' links trail' steps = .ok (arrived', left) ∧
      arrived.location = arrived'.location := by
  rw [walk_eq_ok_iff] at h
  induction h generalizing trail' with
  | arrived reached =>
      obtain ⟨arrived', reached', hsame'⟩ :=
        exists_arrived_congr hkeeps ht ht' hlocation reached harrived
      exact ⟨arrived', walk_of_arrived reached', hsame'⟩
  | link reached further ih =>
      -- both stop at the same link, and go on from where its target begins
      obtain ⟨parent', reached', hparent⟩ := exists_link_congr hkeeps ht ht' hlocation reached
      rw [walk_succ_of_link reached']
      exact ih (isIn_targetStart (isIn_of_reach ht reached) _)
        (isIn_targetStart (isIn_of_reach ht' reached') _) (location_targetStart hparent _) harrived

end Walk

end Storage

end ControllerCompanion
