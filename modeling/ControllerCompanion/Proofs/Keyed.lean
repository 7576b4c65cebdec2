import Mathlib.Data.List.Induction
import Mathlib.Data.List.Nodup
import Mathlib.Data.List.Perm.Basic

set_option autoImplicit false

/-! # Lists with keys

Entries that are looked up by a key (`find?_eq_some_of_mem`, `lookup_eq_some_iff_mem`) or changed at
the place of one (`modify_map`), keys in the order of their first occurrences (`eraseDups_concat`),
and lists that are put together from the parts that belong to each key (`filter_flatMap`,
`perm_of_filter_perm`). -/

namespace ControllerCompanion.Keyed

variable {α β κ : Type}

/-! ## Looking up -/

/-- An entry is found by its key, if no other entry has it. -/
theorem find?_eq_some_of_mem [BEq κ] [LawfulBEq κ] {key : α → κ} {entries : List α} {entry : α}
    (hnodup : (entries.map key).Nodup) (hentry : entry ∈ entries) :
    entries.find? (key · == key entry) = some entry := by
  cases hfind : entries.find? (key · == key entry) with
  | none =>
      rw [List.find?_eq_none] at hfind
      exact absurd (beq_self_eq_true (key entry)) (hfind entry hentry)
  | some found =>
      have hkey : key found = key entry := by
        have hbeq := List.find?_some hfind
        exact eq_of_beq hbeq
      have hmem := List.mem_of_find?_eq_some hfind
      rw [List.inj_on_of_nodup_map hnodup hmem hentry hkey]

/-- With distinct keys, the entry of a key is the one that is there. -/
theorem lookup_eq_some_iff_mem [BEq κ] [LawfulBEq κ] {entries : List (κ × β)} {name : κ} {b : β}
    (hnodup : (entries.map Prod.fst).Nodup) :
    entries.lookup name = some b ↔ (name, b) ∈ entries := by
  induction entries with
  | nil => simp
  | cons entry rest ih =>
      obtain ⟨first, b'⟩ := entry
      obtain ⟨hfirst, hrest⟩ := List.nodup_cons.1 hnodup
      rw [List.lookup_cons]
      by_cases h : name = first
      · subst h
        have hnot : (name, b) ∉ rest := fun hmem =>
          hfirst (List.mem_map.2 ⟨(name, b), hmem, rfl⟩)
        simp [hnot, eq_comm]
      · simp [beq_false_of_ne h, ih hrest, h]

theorem lookup_eq_none_of_not_mem {entries : List (String × β)} {name : String}
    (h : name ∉ entries.map Prod.fst) : entries.lookup name = none := by
  rw [List.lookup_eq_none_iff]
  intro entry hentry
  exact bne_iff_ne.2 fun heq => h (heq ▸ List.mem_map_of_mem hentry)

theorem not_mem_of_lookup_eq_none {entries : List (String × β)} {name : String}
    (h : entries.lookup name = none) : name ∉ entries.map Prod.fst := by
  rw [List.lookup_eq_none_iff] at h
  rintro hmem
  obtain ⟨entry, hentry, rfl⟩ := List.mem_map.1 hmem
  exact absurd (h entry hentry) (by simp)

theorem mem_of_lookup_eq_some {entries : List (String × β)} {name : String} {b : β}
    (h : entries.lookup name = some b) : (name, b) ∈ entries := by
  obtain ⟨front, back, rfl, -⟩ := List.lookup_eq_some_iff.1 h
  exact List.mem_append_right _ List.mem_cons_self

/-- In another order, the first entry stands somewhere among the others. -/
theorem exists_split_of_cons_perm {a : α} {rest others : List α} (h : (a :: rest).Perm others) :
    ∃ front back, others = front ++ a :: back ∧ (front ++ back).Perm rest := by
  obtain ⟨front, back, rfl⟩ := List.append_of_mem (h.subset List.mem_cons_self)
  exact ⟨front, back, rfl, (h.trans List.perm_middle).cons_inv.symm⟩

/-- With distinct keys, what is changed at the place of a key is what belongs to the key. -/
theorem modify_map [DecidableEq κ] {keys : List κ} (hnodup : keys.Nodup) {i : Nat} {key : κ}
    (hi : keys[i]? = some key) (part : κ → β) (f : β → β) :
    (keys.map part).modify i f = keys.map fun k => if k = key then f (part k) else part k := by
  refine List.ext_getElem? fun j => ?_
  rw [List.getElem?_modify, List.getElem?_map, List.getElem?_map]
  cases hj : keys[j]? with
  | none => rfl
  | some k =>
      by_cases h : i = j
      · subst h
        obtain rfl : key = k := Option.some.inj (hi.symm.trans hj)
        simp
      · have hne : k ≠ key := by
          rintro rfl
          have hlt : i < keys.length := (List.getElem?_eq_some_iff.1 hi).1
          exact h ((List.getElem?_inj hlt hnodup).1 (hi.trans hj.symm))
        simp [h, hne]

/-! ## First occurrences -/

theorem eraseDups_concat [DecidableEq α] (as : List α) (a : α) :
    (as ++ [a]).eraseDups = as.eraseDups ++ if a ∈ as then [] else [a] := by
  rw [List.eraseDups_append, List.cons_removeAll, List.nil_removeAll]
  by_cases h : a ∈ as
  · simp [h]
  · simp [h, List.eraseDups_cons]

theorem nodup_eraseDups [DecidableEq α] (as : List α) : as.eraseDups.Nodup := by
  induction as using List.reverseRecOn with
  | nil => exact .nil
  | append_singleton as a ih =>
      rw [eraseDups_concat]
      split
      next h => simpa using ih
      next h =>
        have ha : a ∉ as.eraseDups := by rwa [List.mem_eraseDups]
        exact List.Nodup.append ih (List.nodup_singleton a) (by simpa using ha)

/-! ## Putting parts together -/

variable [DecidableEq κ] {key : α → κ}

/-- The entries of a key, in a list put together from the parts of some keys. -/
theorem filter_flatMap {part : κ → List α} (hpart : ∀ k, ∀ x ∈ part k, key x = k) {keys : List κ}
    (hnodup : keys.Nodup) (k : κ) :
    (keys.flatMap part).filter (k = key ·) = if k ∈ keys then part k else [] := by
  induction keys with
  | nil => rfl
  | cons k' rest ih =>
      obtain ⟨hk', hrest⟩ := List.nodup_cons.1 hnodup
      rw [List.flatMap_cons, List.filter_append, ih hrest]
      by_cases h : k = k'
      · subst h
        have hall : (part k).filter (k = key ·) = part k :=
          List.filter_eq_self.2 fun x hx => decide_eq_true (hpart k x hx).symm
        simp [hall, hk']
      · have hnone : (part k').filter (k = key ·) = [] :=
          List.filter_eq_nil_iff.2 fun x hx => by simpa [hpart k' x hx] using h
        simp [hnone, h]

/-- Two lists hold the same entries if they do so for each key. -/
theorem perm_of_filter_perm [DecidableEq α] (key : α → κ) {xs ys : List α}
    (h : ∀ k, (xs.filter (k = key ·)).Perm (ys.filter (k = key ·))) : xs.Perm ys := by
  rw [List.perm_iff_count]
  intro x
  have hcount (zs : List α) : zs.count x = (zs.filter (key x = key ·)).count x := by
    rw [List.count_filter (by simp)]
  rw [hcount xs, hcount ys]
  exact (h (key x)).count_eq x

end ControllerCompanion.Keyed
