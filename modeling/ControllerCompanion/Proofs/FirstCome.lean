import ControllerCompanion.Proofs.Keyed
import Mathlib.Data.List.Nodup
import Mathlib.Data.List.Pairwise
import Mathlib.Data.List.Perm.Basic

set_option autoImplicit false

/-! # First come, first served

Applicants for names are looked at one by one, each with the names that it needs. Who needs a name
that is taken already is refused and takes nothing; everyone else is admitted and takes what it
needs. No two admitted ones share a name (`nodup_admitted`), and nobody is refused exactly if all
names asked for are distinct, among each other and from those taken before
(`refused_eq_nil_iff`). Where everyone needs one name, the first to ask for a free name gets it
(`map_admitted`, `find?_of_mem_admitted`). -/

namespace ControllerCompanion.FirstCome

variable {α : Type} (names : α → List String)

/-- Whether a name that `x` needs is taken. -/
def clashes (taken : List String) (x : α) : Bool := (names x).any taken.contains

/-- Those that are admitted when `taken` is taken already. -/
def admitted : List String → List α → List α
  | _, [] => []
  | taken, x :: xs =>
    if clashes names taken x then admitted taken xs else x :: admitted (taken ++ names x) xs

/-- Those that are refused. -/
def refused : List String → List α → List α
  | _, [] => []
  | taken, x :: xs =>
    if clashes names taken x then x :: refused taken xs else refused (taken ++ names x) xs

variable {names}

theorem clashes_iff {taken : List String} {x : α} :
    clashes names taken x = true ↔ ∃ n ∈ names x, n ∈ taken := by
  simp [clashes]

@[simp] theorem clashes_nil (x : α) : clashes names [] x = false := by
  simp [clashes]

theorem disjoint_of_not_clashes {taken : List String} {x : α}
    (h : ¬clashes names taken x = true) : taken.Disjoint (names x) :=
  fun n htaken hx => h (clashes_iff.2 ⟨n, hx, htaken⟩)

theorem admitted_sublist (taken : List String) (xs : List α) :
    (admitted names taken xs).Sublist xs := by
  induction xs generalizing taken with
  | nil => exact .slnil
  | cons x xs ih =>
      rw [admitted]
      split
      · exact (ih taken).cons x
      · exact (ih _).cons_cons x

theorem refused_sublist (taken : List String) (xs : List α) :
    (refused names taken xs).Sublist xs := by
  induction xs generalizing taken with
  | nil => exact .slnil
  | cons x xs ih =>
      rw [refused]
      split
      · exact (ih taken).cons_cons x
      · exact (ih _).cons x

/-- Everyone is admitted or refused, and nobody is both. -/
theorem admitted_append_refused_perm (taken : List String) (xs : List α) :
    (admitted names taken xs ++ refused names taken xs).Perm xs := by
  induction xs generalizing taken with
  | nil => exact .nil
  | cons x xs ih =>
      rw [admitted, refused]
      split
      · exact List.perm_middle.trans ((ih taken).cons x)
      · exact (ih _).cons x

/-- The names taken in the end are distinct. -/
theorem nodup_admitted (hnames : ∀ x, (names x).Nodup) {taken : List String} (h : taken.Nodup)
    (xs : List α) : (taken ++ (admitted names taken xs).flatMap names).Nodup := by
  induction xs generalizing taken with
  | nil => simpa [admitted] using h
  | cons x xs ih =>
      rw [admitted]
      split
      · exact ih h
      next hclash =>
        have hx : (taken ++ names x).Nodup :=
          h.append (hnames x) (disjoint_of_not_clashes hclash)
        simpa using ih hx

/-- No two admitted ones share a name. -/
theorem eq_of_shared_name (hnames : ∀ x, (names x).Nodup) {taken : List String}
    (h : taken.Nodup) {xs : List α} {x y : α} {n : String} (hx : x ∈ admitted names taken xs)
    (hy : y ∈ admitted names taken xs) (hnx : n ∈ names x) (hny : n ∈ names y) : x = y := by
  have hnodup := (List.nodup_append.1 (nodup_admitted hnames h xs)).2.1
  rw [List.nodup_flatMap] at hnodup
  have hsymm : Std.Symm (Function.onFun List.Disjoint names) := ⟨fun _ _ hd _ hy hx => hd hx hy⟩
  by_contra hne
  exact hnodup.2.forall hx hy hne hnx hny

/-- Nobody is refused exactly if no name is asked for twice, and none that is taken. -/
theorem refused_eq_nil_iff (hnames : ∀ x, (names x).Nodup) {taken : List String}
    (h : taken.Nodup) (xs : List α) :
    refused names taken xs = [] ↔ (taken ++ xs.flatMap names).Nodup := by
  induction xs generalizing taken with
  | nil => simpa [refused] using h
  | cons x xs ih =>
      rw [refused, List.flatMap_cons]
      split
      next hclash =>
        obtain ⟨n, hx, htaken⟩ := clashes_iff.1 hclash
        refine ⟨fun hnil => absurd hnil (by simp), fun hall => ?_⟩
        have hdisjoint := List.disjoint_of_nodup_append hall
        exact absurd (List.mem_append_left _ hx) (hdisjoint htaken)
      next hclash =>
        have hx : (taken ++ names x).Nodup :=
          h.append (hnames x) (disjoint_of_not_clashes hclash)
        rw [ih hx, List.append_assoc]

/-- When nothing is taken, the first applicant is admitted. -/
theorem admitted_ne_nil {xs : List α} (h : xs ≠ []) : admitted names [] xs ≠ [] := by
  cases xs with
  | nil => exact absurd rfl h
  | cons x xs => simp [admitted]

theorem admitted_eq_self {taken : List String} {xs : List α} (h : refused names taken xs = []) :
    admitted names taken xs = xs := by
  have hperm : (admitted names taken xs ++ refused names taken xs).Perm xs :=
    admitted_append_refused_perm taken xs
  rw [h, List.append_nil] at hperm
  exact (admitted_sublist taken xs).eq_of_length hperm.length_eq

/-- The last applicant is checked against all names that are taken before it. -/
theorem admitted_concat (taken : List String) (xs : List α) (x : α) :
    admitted names taken (xs ++ [x])
      = admitted names taken xs
        ++ if clashes names (taken ++ (admitted names taken xs).flatMap names) x then []
          else [x] := by
  induction xs generalizing taken with
  | nil => simp [admitted]
  | cons y ys ih =>
      simp only [List.cons_append, admitted]
      split
      · exact ih taken
      · rw [ih, List.flatMap_cons, List.append_assoc, List.cons_append]

/-! ## One name each -/

variable {key : α → String}

/-- Whoever needs one name only gets it if it is free and nobody asked for it before: the names
    given away are those asked for, each where it first comes up, without the ones taken. -/
theorem map_admitted (key : α → String) (taken : List String) (xs : List α) :
    (admitted (fun x => [key x]) taken xs).map key
      = (xs.map key).eraseDups.filter (· ∉ taken) := by
  induction xs using List.reverseRecOn with
  | nil => rfl
  | append_singleton xs x ih =>
      have hnames : (admitted (fun x => [key x]) taken xs).flatMap (fun x => [key x])
          = (xs.map key).eraseDups.filter (· ∉ taken) := by
        rw [← ih, List.map_eq_flatMap]
      rw [admitted_concat, hnames, List.map_append, ih, List.map_append, List.map_singleton,
        Keyed.eraseDups_concat, List.filter_append]
      congr 1
      by_cases htaken : key x ∈ taken
      · simp [clashes, htaken]
      · by_cases hbefore : key x ∈ xs.map key <;>
          simp [clashes, htaken, hbefore, List.mem_eraseDups]

/-- A name is gone once somebody has asked for it, whoever got it. -/
theorem clashes_admitted_iff {taken : List String} {xs : List α} {x : α} :
    clashes (fun x => [key x])
        (taken ++ (admitted (fun x => [key x]) taken xs).flatMap fun x => [key x]) x = true
      ↔ key x ∈ taken ∨ key x ∈ xs.map key := by
  rw [← List.map_eq_flatMap, map_admitted]
  by_cases htaken : key x ∈ taken <;> simp [clashes, htaken, List.mem_eraseDups]

/-- Of those who ask for one name, the first one gets it. -/
theorem find?_of_mem_admitted {taken : List String} {xs : List α} {x : α}
    (hx : x ∈ admitted (fun x => [key x]) taken xs) :
    xs.find? (key · == key x) = some x := by
  induction xs using List.reverseRecOn with
  | nil => exact absurd hx List.not_mem_nil
  | append_singleton xs y ih =>
      rw [admitted_concat] at hx
      rw [List.find?_append]
      rcases List.mem_append.1 hx with hbefore | hlast
      · rw [ih hbefore, Option.some_or]
      · split at hlast
        · exact absurd hlast List.not_mem_nil
        next hfree =>
          -- `x` is the last one, and its name was not given away to anybody before it
          obtain rfl := List.mem_singleton.1 hlast
          have hnone : xs.find? (key · == key x) = none := by
            refine List.find?_eq_none.2 fun y hy hkey => hfree (clashes_admitted_iff.2 (.inr ?_))
            exact List.mem_map.2 ⟨y, hy, eq_of_beq hkey⟩
          rw [hnone, Option.none_or, List.find?_singleton, beq_self_eq_true, if_pos rfl]

end ControllerCompanion.FirstCome
