import ControllerCompanion.Storage.Tree

set_option autoImplicit false

/-! # What stands at a location

A tree seen from its locations. Directories and links decide where paths lead; they are the
fixtures of a tree. A file that is put where nothing but a file stands changes no fixture, and no
text but the one at its location (`fixtureAt_put`, `textAt_put`). -/

namespace ControllerCompanion

/-- What decides where the paths lead that pass a location. -/
inductive Fixture where
  | directory
  | link (target : String)
  deriving DecidableEq

namespace Node

/-- The fixture that a node is, unless it is a file. -/
def fixture? : Node → Option Fixture
  | .file _ => none
  | .link target => some (.link target)
  | .directory _ => some .directory

/-- The text of a node that is a file. -/
def text? : Node → Option String
  | .file text => some text
  | _ => none

/-- The fixture at a location. -/
def fixtureAt (root : Node) (location : Location) : Option Fixture :=
  (root.get? location).bind fixture?

/-- The text of the file at a location. -/
def textAt (root : Node) (location : Location) : Option String :=
  (root.get? location).bind text?

/-! ## Entries -/

@[simp] theorem get?_nil (n : Node) : n.get? [] = some n := by
  cases n <;> rfl

theorem get?_file (text : String) (location : Location) :
    (file text).get? location = if location = [] then some (file text) else none := by
  cases location <;> rfl

theorem get?_cons (entries : List (FileName × Node)) (name : FileName) (rest : Location) :
    (directory entries).get? (name :: rest) = (entries.lookup name).bind (get? · rest) := by
  rw [get?]

theorem get?_append (n : Node) (first second : Location) :
    n.get? (first ++ second) = (n.get? first).bind (get? · second) := by
  induction first generalizing n with
  | nil => simp
  | cons name rest ih =>
      cases n with
      | file text => rfl
      | link target => rfl
      | directory entries =>
          simp only [List.cons_append, get?]
          cases entries.lookup name with
          | none => rfl
          | some n => exact ih n

theorem get?_singleton (entries : List (FileName × Node)) (name : FileName) :
    (Node.directory entries).get? [name] = entries.lookup name := by
  rw [get?_cons, funext get?_nil, Option.bind_fun_some]

theorem lookup_setEntry (name other : FileName) (new : Node) (entries : List (FileName × Node)) :
    (setEntry name new entries).lookup other
      = if other = name then some new else entries.lookup other := by
  induction entries with
  | nil =>
      by_cases h : other = name
      · simp [setEntry, h]
      · simp [setEntry, h, List.lookup_cons, beq_false_of_ne h]
  | cons entry rest ih =>
      obtain ⟨key, n⟩ := entry
      rw [setEntry]
      by_cases hkey : key = name
      · rw [if_pos hkey, hkey, List.lookup_cons, List.lookup_cons]
        by_cases h : other = name
        · simp [h]
        · simp [h, beq_false_of_ne h]
      · rw [if_neg hkey, List.lookup_cons, List.lookup_cons, ih]
        by_cases h : other = key
        · simp [h, hkey]
        · simp [beq_false_of_ne h]

theorem put_cons {entries : List (FileName × Node)} {name : FileName} {n : Node}
    (h : entries.lookup name = some n) (new : Node) (rest : Location) :
    put new (.directory entries) (name :: rest)
      = .directory (setEntry name (put new n rest) entries) := by
  rw [put, h, Option.getD_some]

/-! ## Fixtures and texts -/

theorem fixture?_eq_none_iff {n : Node} : n.fixture? = none ↔ ∃ text, n = .file text := by
  cases n with
  | file text => simp [fixture?]
  | link target => simp [fixture?]
  | directory entries => simp [fixture?]

theorem fixture?_eq_directory_iff {n : Node} :
    n.fixture? = some .directory ↔ ∃ entries, n = .directory entries := by
  cases n with
  | file text => simp [fixture?]
  | link target => simp [fixture?]
  | directory entries => simp [fixture?]

theorem fixture?_eq_link_iff {n : Node} {target : String} :
    n.fixture? = some (.link target) ↔ n = .link target := by
  cases n with
  | file text => simp [fixture?]
  | link target => simp [fixture?]
  | directory entries => simp [fixture?]

theorem text?_eq_some_iff {n : Node} {text : String} : n.text? = some text ↔ n = .file text := by
  cases n with
  | file text => simp [text?]
  | link target => simp [text?]
  | directory entries => simp [text?]

theorem fixtureAt_nil (n : Node) : n.fixtureAt [] = n.fixture? := by
  rw [fixtureAt, get?_nil, Option.bind_some]

/-- What a fixture below a name says of the tree. -/
theorem exists_entry_of_fixtureAt {root : Node} {name : FileName} {rest : Location} {f : Fixture}
    (h : root.fixtureAt (name :: rest) = some f) :
    ∃ entries n, root = .directory entries ∧ entries.lookup name = some n ∧
      n.fixtureAt rest = some f := by
  cases root with
  | file text => simp [fixtureAt, get?] at h
  | link target => simp [fixtureAt, get?] at h
  | directory entries =>
      rw [fixtureAt, get?_cons, Option.bind_assoc] at h
      obtain ⟨n, hn, hrest⟩ := Option.bind_eq_some_iff.1 h
      exact ⟨entries, n, rfl, hn, hrest⟩

/-! ## Putting a node -/

/-- A location in a directory of the tree, where no fixture stands. -/
def IsFree (root : Node) (location : Location) : Prop :=
  ∃ (directory : Location) (name : FileName), location = directory ++ [name] ∧
    root.fixtureAt directory = some .directory ∧ root.fixtureAt location = none

/-- Where an entry is no fixture, nothing stands below it. -/
theorem get?_below_of_fixtureAt {entries : List (FileName × Node)} {name : FileName}
    (h : (directory entries).fixtureAt [name] = none) {rest : Location} (hrest : rest ≠ []) :
    (directory entries).get? (name :: rest) = none := by
  rw [fixtureAt, get?_singleton] at h
  rw [get?_cons]
  cases hn : entries.lookup name with
  | none => rfl
  | some n =>
      rw [hn, Option.bind_some] at h
      obtain ⟨text, rfl⟩ := fixture?_eq_none_iff.1 h
      rw [Option.bind_some, get?_file, if_neg hrest]

/-- Nothing stands below the node: it is a file, a link, or a directory without entries. -/
def IsBare (n : Node) : Prop := ∀ rest : Location, rest ≠ [] → n.get? rest = none

theorem isBare_file (text : String) : (file text).IsBare := by
  intro rest hrest
  rw [get?_file, if_neg hrest]

theorem isBare_directory : (directory []).IsBare := by
  intro rest hrest
  cases rest with
  | nil => exact absurd rfl hrest
  | cons name rest => rfl

/-- What is seen of the nodes, apart from the entries of directories, is changed by a bare node that
is put at a free location at this location only. -/
theorem bind_get?_put {β : Type} {f : Node → Option β}
    (hf : ∀ entries entries', f (.directory entries) = f (.directory entries'))
    {root new : Node} {location : Location} (hfree : root.IsFree location) (hnew : new.IsBare)
    (other : Location) :
    ((put new root location).get? other).bind f
      = if other = location then f new else (root.get? other).bind f := by
  obtain ⟨parent, name, rfl, hparent, hlocation⟩ := hfree
  -- down the directories that lead to the node, where only the entry on the way changes
  induction parent generalizing root other with
  | nil =>
      rw [fixtureAt_nil] at hparent
      obtain ⟨entries, rfl⟩ := fixture?_eq_directory_iff.1 hparent
      cases other with
      | nil => exact hf _ _
      | cons first rest =>
          rw [List.nil_append, put, put, get?_cons, lookup_setEntry]
          by_cases hfirst : first = name
          · subst hfirst
            rw [if_pos rfl, Option.bind_some]
            by_cases hrest : rest = []
            · rw [hrest, if_pos rfl, get?_nil, Option.bind_some]
            · rw [hnew rest hrest, if_neg (by simpa using hrest),
                get?_below_of_fixtureAt hlocation hrest]
          · rw [if_neg hfirst, get?_cons, if_neg (by simp [hfirst])]
  | cons first parents ih =>
      obtain ⟨entries, n, rfl, hn, hparents⟩ := exists_entry_of_fixtureAt hparent
      have hinner : n.fixtureAt (parents ++ [name]) = none := by
        rwa [List.cons_append, fixtureAt, get?_cons, hn, Option.bind_some] at hlocation
      cases other with
      | nil =>
          rw [List.cons_append, put_cons hn]
          exact hf _ _
      | cons second rest =>
          rw [List.cons_append, put_cons hn, get?_cons, get?_cons, lookup_setEntry]
          by_cases hsecond : second = first
          · rw [if_pos hsecond, hsecond, hn, Option.bind_some, Option.bind_some,
              ih rest hparents hinner]
            simp
          · rw [if_neg hsecond, if_neg (by simp [hsecond])]

/-- What is put at a free location is the fixture there, and no other one changes. -/
theorem fixtureAt_put_of_isBare {root new : Node} {location : Location}
    (hfree : root.IsFree location) (hnew : new.IsBare) (other : Location) :
    (put new root location).fixtureAt other
      = if other = location then new.fixture? else root.fixtureAt other :=
  bind_get?_put (fun _ _ => rfl) hfree hnew other

/-- What is put at a free location has its text there, and no other text changes. -/
theorem textAt_put_of_isBare {root new : Node} {location : Location}
    (hfree : root.IsFree location) (hnew : new.IsBare) (other : Location) :
    (put new root location).textAt other
      = if other = location then new.text? else root.textAt other :=
  bind_get?_put (fun _ _ => rfl) hfree hnew other

/-- **A file that is put at a free location changes no fixture.** -/
theorem fixtureAt_put {root : Node} {location : Location} (hfree : root.IsFree location)
    (text : String) (other : Location) :
    (put (.file text) root location).fixtureAt other = root.fixtureAt other := by
  rw [fixtureAt_put_of_isBare hfree (isBare_file text)]
  obtain ⟨_, _, _, _, hnone⟩ := hfree
  by_cases hother : other = location
  · rw [if_pos hother, hother, hnone]
    rfl
  · rw [if_neg hother]

/-- **A file that is put at a free location has its text there, and no other text changes.** -/
theorem textAt_put {root : Node} {location : Location} (hfree : root.IsFree location)
    (text : String) (other : Location) :
    (put (.file text) root location).textAt other
      = if other = location then some text else root.textAt other :=
  textAt_put_of_isBare hfree (isBare_file text) other

end Node

end ControllerCompanion
