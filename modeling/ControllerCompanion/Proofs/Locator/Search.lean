import ControllerCompanion.Proofs.Keyed
import ControllerCompanion.Proofs.Storage.Tree
import ControllerCompanion.View.Locator
import Mathlib.Data.List.Lex
import Mathlib.Tactic.Tauto

set_option autoImplicit false

/-! # Searching a directory

The search goes through a directory depth first and takes the entries by the bytes of their names.
What it finds are the files that no filter keeps it from (`mem_filesBelow`), in the order of their
paths, compared component by component (`pairwise_filesBelow`): the order of the entries in a
directory does not show. -/

namespace ControllerCompanion

namespace Node

/-- In every directory, no two entries have one name. Names are told apart by their bytes. -/
inductive HasDistinctNames : Node → Prop where
  | file (text : String) : HasDistinctNames (.file text)
  | link (target : String) : HasDistinctNames (.link target)
  | directory {entries : List (FileName × Node)}
      (distinct : (entries.map fun entry => entry.1.bytes).Nodup)
      (below : ∀ entry ∈ entries, HasDistinctNames entry.2) : HasDistinctNames (.directory entries)

@[simp] theorem hasDistinctNames_file (text : String) : (file text).HasDistinctNames := .file text

@[simp] theorem hasDistinctNames_directory {entries : List (FileName × Node)} :
    (directory entries).HasDistinctNames ↔
      (entries.map fun entry => entry.1.bytes).Nodup ∧
        ∀ entry ∈ entries, entry.2.HasDistinctNames := by
  constructor
  · rintro (_ | _ | ⟨distinct, below⟩)
    exact ⟨distinct, below⟩
  · rintro ⟨distinct, below⟩
    exact .directory distinct below

theorem nodup_names {entries : List (FileName × Node)}
    (h : (entries.map fun entry => entry.1.bytes).Nodup) : (entries.map Prod.fst).Nodup :=
  List.Nodup.of_map FileName.bytes (by rwa [List.map_map])

end Node

namespace Locator

variable {config : ViewLocatorConfig}

/-! ## The order of names -/

theorem bytesLe_cons_iff {a b : Nat} {as bs : List Nat} :
    bytesLe (a :: as) (b :: bs) = true ↔ a < b ∨ a = b ∧ bytesLe as bs = true := by
  rw [bytesLe]
  by_cases hlt : a < b
  · simp [hlt]
  · by_cases hgt : b < a
    · simp [hlt, hgt, Nat.ne_of_gt hgt]
    · have heq : a = b := by omega
      simp [heq]

theorem bytesLe_iff {as bs : List Nat} :
    bytesLe as bs = true ↔ as = bs ∨ List.Lex (· < ·) as bs := by
  induction as generalizing bs with
  | nil =>
      cases bs with
      | nil => simp [bytesLe]
      | cons b bs => simp [bytesLe]
  | cons a as ih =>
      cases bs with
      | nil => simp [bytesLe]
      | cons b bs => rw [bytesLe_cons_iff, ih, List.cons_lex_cons_iff, List.cons.injEq]; tauto

theorem bytesLe_trans {as bs cs : List Nat} (h : bytesLe as bs = true) (h' : bytesLe bs cs = true) :
    bytesLe as cs = true := by
  induction as generalizing bs cs with
  | nil => simp [bytesLe]
  | cons a as ih =>
      cases bs with
      | nil => simp [bytesLe] at h
      | cons b bs =>
          cases cs with
          | nil => simp [bytesLe] at h'
          | cons c cs =>
              rw [bytesLe_cons_iff] at h h' ⊢
              rcases h with hab | ⟨rfl, hab⟩
              · exact .inl (by omega)
              · exact h'.imp_right fun ⟨hbc, hrest⟩ => ⟨hbc, ih hab hrest⟩

theorem bytesLe_total (as bs : List Nat) : bytesLe as bs = true ∨ bytesLe bs as = true := by
  induction as generalizing bs with
  | nil => simp [bytesLe]
  | cons a as ih =>
      cases bs with
      | nil => simp [bytesLe]
      | cons b bs =>
          rw [bytesLe_cons_iff, bytesLe_cons_iff]
          rcases Nat.lt_trichotomy a b with h | rfl | h
          · exact .inl (.inl h)
          · exact (ih bs).imp (fun h => .inr ⟨rfl, h⟩) fun h => .inr ⟨rfl, h⟩
          · exact .inr (.inl h)

/-- Entries with distinct names are strictly ordered when they are sorted by them. -/
theorem pairwise_mergeSort_bytes {α : Type} {entries : List (FileName × α)}
    (h : (entries.map fun entry => entry.1.bytes).Nodup) :
    (entries.mergeSort fun a b => bytesLe a.1.bytes b.1.bytes).Pairwise
      fun a b => List.Lex (· < ·) a.1.bytes b.1.bytes := by
  have hsorted : (entries.mergeSort fun a b => bytesLe a.1.bytes b.1.bytes).Pairwise
      fun a b => bytesLe a.1.bytes b.1.bytes = true := by
    apply List.pairwise_mergeSort
    · exact fun _ _ _ => bytesLe_trans
    · exact fun _ _ => Bool.or_eq_true_iff.2 (bytesLe_total _ _)
  have hdistinct : (entries.mergeSort fun a b => bytesLe a.1.bytes b.1.bytes).Pairwise
      fun a b => a.1.bytes ≠ b.1.bytes := by
    have hperm := (List.mergeSort_perm entries fun a b => bytesLe a.1.bytes b.1.bytes).map
      fun entry => entry.1.bytes
    exact List.pairwise_map.1 (hperm.nodup_iff.2 h)
  exact (hsorted.and hdistinct).imp fun ⟨hle, hne⟩ => (bytesLe_iff.1 hle).resolve_left hne

/-! ## What keeps the search off -/

/-- The name is a text that begins with a dot. -/
def IsHidden (name : FileName) : Prop := ∃ s, name = .text s ∧ s.toList.head? = some '.'

/-- The name is that of a directory that is not entered. -/
def IsExcludedDirectory (config : ViewLocatorConfig) (name : FileName) : Prop :=
  ∃ s, name = .text s ∧ s ∈ config.excludedDirectories

theorem isExcluded_eq_false_iff {name : FileName} {n : Node} :
    isExcluded config name n = false ↔
      ¬IsHidden name ∧ (n.isDirectory = true → ¬IsExcludedDirectory config name) := by
  cases name with
  | raw bytes => simp [isExcluded, IsHidden, IsExcludedDirectory]
  | text s => simp [isExcluded, IsHidden, IsExcludedDirectory]

/-- A regular file that the search comes to: nothing on the way to it keeps the search off. -/
structure IsFound (config : ViewLocatorConfig) (n : Node) (path : Location) : Prop where
  isFile : ∃ text, n.get? path = some (.file text)
  visible : ∀ name ∈ path, ¬IsHidden name
  entered : ∀ name ∈ path.dropLast, ¬IsExcludedDirectory config name

theorem isFound_file_iff {text : String} {path : Location} :
    IsFound config (.file text) path ↔ path = [] := by
  constructor
  · rintro ⟨⟨other, hfile⟩, -, -⟩
    rw [Node.get?_file] at hfile
    by_contra hne
    simp [hne] at hfile
  · rintro rfl
    exact ⟨⟨text, by simp⟩, by simp, by simp⟩

theorem not_isFound_link {target : String} {path : Location} :
    ¬IsFound config (.link target) path := by
  rintro ⟨⟨text, hfile⟩, -, -⟩
  cases path with
  | nil => simp at hfile
  | cons name rest => simp [Node.get?] at hfile

/-- The search comes to a file in a directory by way of one of the entries. -/
theorem isFound_directory_iff {entries : List (FileName × Node)}
    (h : (entries.map fun entry => entry.1.bytes).Nodup) {path : Location} :
    IsFound config (.directory entries) path ↔
      ∃ entry ∈ entries, isExcluded config entry.1 entry.2 = false ∧
        ∃ rest, path = entry.1 :: rest ∧ IsFound config entry.2 rest := by
  have hlookup : ∀ name n, entries.lookup name = some n ↔ (name, n) ∈ entries :=
    fun name n => Keyed.lookup_eq_some_iff_mem (Node.nodup_names h)
  constructor
  · rintro ⟨⟨text, hfile⟩, hvisible, hentered⟩
    cases path with
    | nil => simp at hfile
    | cons name rest =>
        rw [Node.get?_cons] at hfile
        obtain ⟨n, hn, hrest⟩ := Option.bind_eq_some_iff.1 hfile
        obtain ⟨hname, hbelow⟩ := List.forall_mem_cons.1 hvisible
        refine ⟨(name, n), (hlookup name n).1 hn, isExcluded_eq_false_iff.2 ⟨hname, ?_⟩, rest, rfl,
          ⟨text, hrest⟩, hbelow, ?_⟩
        · -- only a directory has something below it
          intro hdirectory
          cases rest with
          | nil => simp [Node.isDirectory] at hrest hdirectory; simp [hrest] at hdirectory
          | cons next rest => exact hentered name (by simp)
        · cases rest with
          | nil => simp
          | cons next rest => exact fun other hother => hentered other (by simp [hother])
  · rintro ⟨⟨name, n⟩, hentry, hexcluded, rest, rfl, ⟨text, hrest⟩, hvisible, hentered⟩
    obtain ⟨hname, hdirectory⟩ := isExcluded_eq_false_iff.1 hexcluded
    refine ⟨⟨text, ?_⟩, List.forall_mem_cons.2 ⟨hname, hvisible⟩, ?_⟩
    · rw [Node.get?_cons, (hlookup name n).2 hentry]
      exact hrest
    · cases rest with
      | nil => simp
      | cons next rest =>
          rw [List.dropLast_cons_cons, List.forall_mem_cons]
          refine ⟨hdirectory ?_, hentered⟩
          cases n with
          | directory inner => rfl
          | file other => simp [Node.get?] at hrest
          | link target => simp [Node.get?] at hrest

/-! ## The search -/

theorem filesOfEntries_eq (path : Location) (entries : List (FileName × Node)) :
    filesOfEntries config path entries
      = (entries.filter fun entry => !isExcluded config entry.1 entry.2).map fun entry =>
          (entry.1, filesBelow config (path ++ [entry.1]) entry.2) := by
  induction entries with
  | nil => rfl
  | cons entry rest ih =>
      obtain ⟨name, n⟩ := entry
      rw [filesOfEntries, ih]
      cases h : isExcluded config name n with
      | true => simp [h]
      | false => simp [h]

/-- **The search finds exactly the files that nothing keeps it from.** -/
theorem mem_filesBelow {n : Node} (hn : n.HasDistinctNames) {path file : Location} :
    file ∈ filesBelow config path n ↔ ∃ rest, file = path ++ rest ∧ IsFound config n rest := by
  induction hn generalizing path file with
  | file text => simp [filesBelow, isFound_file_iff]
  | link target => simp [filesBelow, not_isFound_link]
  | @directory entries distinct below ih =>
      have hmem : file ∈ filesBelow config path (.directory entries) ↔
          ∃ entry ∈ entries, isExcluded config entry.1 entry.2 = false ∧
            file ∈ filesBelow config (path ++ [entry.1]) entry.2 := by
        rw [filesBelow, filesOfEntries_eq]
        simp [List.mem_flatMap, List.mem_mergeSort, and_assoc]
      rw [hmem]
      constructor
      · rintro ⟨entry, hentry, hexcluded, hfile⟩
        obtain ⟨rest, rfl, hrest⟩ := (ih entry hentry).1 hfile
        refine ⟨entry.1 :: rest, by simp, (isFound_directory_iff distinct).2 ?_⟩
        exact ⟨entry, hentry, hexcluded, rest, rfl, hrest⟩
      · rintro ⟨rest, rfl, hrest⟩
        obtain ⟨entry, hentry, hexcluded, rest, rfl, hfound⟩ :=
          (isFound_directory_iff distinct).1 hrest
        exact ⟨entry, hentry, hexcluded, (ih entry hentry).2 ⟨rest, by simp, hfound⟩⟩

/-- One path comes before another one: the first names in which they differ are compared by their
    bytes. -/
def Precedes (p q : Location) : Prop :=
  List.Lex (List.Lex (· < ·)) (p.map FileName.bytes) (q.map FileName.bytes)

theorem Precedes.asymm {p q : Location} (h : Precedes p q) : ¬Precedes q p :=
  Std.Asymm.asymm (r := List.Lex (List.Lex (· < ·))) _ _ h

theorem nodup_of_precedes {paths : List Location} (h : paths.Pairwise Precedes) : paths.Nodup := by
  refine h.imp fun {p q} hpq heq => ?_
  subst heq
  exact hpq.asymm hpq

/-- **The search finds files in the order of their paths.** -/
theorem pairwise_filesBelow {n : Node} (hn : n.HasDistinctNames) (path : Location) :
    (filesBelow config path n).Pairwise Precedes := by
  induction hn generalizing path with
  | file text => exact List.pairwise_singleton _ _
  | link target => exact .nil
  | @directory entries distinct below ih =>
      have hkept : ((filesOfEntries config path entries).map fun entry => entry.1.bytes).Nodup := by
        rw [filesOfEntries_eq, List.map_map]
        exact distinct.sublist ((List.filter_sublist).map _)
      have hentry : ∀ files ∈ filesOfEntries config path entries, ∃ entry ∈ entries,
          files = (entry.1, filesBelow config (path ++ [entry.1]) entry.2) := by
        intro files hfiles
        rw [filesOfEntries_eq] at hfiles
        obtain ⟨entry, hentry, rfl⟩ := List.mem_map.1 hfiles
        exact ⟨entry, (List.mem_filter.1 hentry).1, rfl⟩
      rw [filesBelow, List.pairwise_flatMap]
      constructor
      · intro files hfiles
        obtain ⟨entry, hmem, rfl⟩ := hentry files (List.mem_mergeSort.1 hfiles)
        exact ih entry hmem _
      · -- files below different entries differ in the names of these first
        refine (pairwise_mergeSort_bytes hkept).imp_of_mem fun {a b} ha hb hlt p hp q hq => ?_
        obtain ⟨entry, hmem, rfl⟩ := hentry a (List.mem_mergeSort.1 ha)
        obtain ⟨other, hother, rfl⟩ := hentry b (List.mem_mergeSort.1 hb)
        obtain ⟨rest, rfl, -⟩ := (mem_filesBelow (below entry hmem)).1 hp
        obtain ⟨rest', rfl, -⟩ := (mem_filesBelow (below other hother)).1 hq
        simp only [Precedes, List.map_append, List.append_assoc, List.map_cons,
          List.singleton_append]
        exact List.Lex.append_left _ (.rel hlt) _

end Locator

end ControllerCompanion
