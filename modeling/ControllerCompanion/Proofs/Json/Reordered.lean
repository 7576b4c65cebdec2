import ControllerCompanion.Json.Source
import Mathlib.Data.List.Perm.Basic
import Mathlib.Order.MinMax

set_option autoImplicit false

/-! # Members in another order

The members of an object have no order of their own. A value is the same as another one if it has
the same members wherever it has an object, in whatever order they stand (`Reordered`). What has a
key in the one has it in the other (`Reordered.exists_mem`), and both are equally high
(`Reordered.height_le`). -/

namespace ControllerCompanion.Json

mutual

/-- The same value, with the members of the objects in it in another order. -/
inductive Reordered : Json → Json → Prop where
  | null : Reordered .null .null
  | bool (b : Bool) : Reordered (.bool b) (.bool b)
  | number (n : Nat) : Reordered (.number n) (.number n)
  | string (s : String) : Reordered (.string s) (.string s)
  | array {vs ws : List Json} (hitems : ReorderedItems vs ws) : Reordered (.array vs) (.array ws)
  | object {ms between ns : List (String × Json)} (hmembers : ReorderedMembers ms between)
      (horder : between.Perm ns) : Reordered (.object ms) (.object ns)

/-- The same for the items of an array, which keep their places. -/
inductive ReorderedItems : List Json → List Json → Prop where
  | nil : ReorderedItems [] []
  | cons {v w : Json} {vs ws : List Json} (hv : Reordered v w) (hvs : ReorderedItems vs ws) :
      ReorderedItems (v :: vs) (w :: ws)

/-- The same for the values of members, before these change their places. -/
inductive ReorderedMembers : List (String × Json) → List (String × Json) → Prop where
  | nil : ReorderedMembers [] []
  | cons {key : String} {v w : Json} {ms ns : List (String × Json)} (hv : Reordered v w)
      (hms : ReorderedMembers ms ns) : ReorderedMembers ((key, v) :: ms) ((key, w) :: ns)

end

mutual

theorem Reordered.refl (v : Json) : Reordered v v := by
  cases v with
  | null => exact .null
  | bool b => exact .bool b
  | number n => exact .number n
  | string s => exact .string s
  | array items => exact .array (ReorderedItems.refl items)
  | object members => exact .object (ReorderedMembers.refl members) (.refl _)

theorem ReorderedItems.refl (vs : List Json) : ReorderedItems vs vs := by
  match vs with
  | [] => exact .nil
  | v :: vs => exact .cons (Reordered.refl v) (ReorderedItems.refl vs)

theorem ReorderedMembers.refl (ms : List (String × Json)) : ReorderedMembers ms ms := by
  match ms with
  | [] => exact .nil
  | (_, v) :: ms => exact .cons (Reordered.refl v) (ReorderedMembers.refl ms)

end

/-! ## Members by their keys -/

theorem ReorderedMembers.keys_eq {ms ns : List (String × Json)} (h : ReorderedMembers ms ns) :
    ns.map Prod.fst = ms.map Prod.fst := by
  match h with
  | .nil => rfl
  | .cons _ hms => rw [List.map_cons, List.map_cons, hms.keys_eq]

theorem ReorderedMembers.exists_mem {ms ns : List (String × Json)} (h : ReorderedMembers ms ns)
    {key : String} {v : Json} (hv : (key, v) ∈ ms) : ∃ w, (key, w) ∈ ns ∧ Reordered v w := by
  match h with
  | .nil => exact absurd hv List.not_mem_nil
  | .cons hfirst hms =>
      rcases List.mem_cons.1 hv with heq | hv
      · obtain ⟨rfl, rfl⟩ := Prod.mk.inj heq
        exact ⟨_, List.mem_cons_self, hfirst⟩
      · obtain ⟨w, hw, hreordered⟩ := hms.exists_mem hv
        exact ⟨w, List.mem_cons_of_mem _ hw, hreordered⟩

section

variable {ms ns : List (String × Json)}

theorem Reordered.keys_perm (h : Reordered (.object ms) (.object ns)) :
    (ns.map Prod.fst).Perm (ms.map Prod.fst) := by
  cases h with
  | object hmembers horder =>
      rw [← hmembers.keys_eq]
      exact (horder.map Prod.fst).symm

theorem Reordered.exists_mem (h : Reordered (.object ms) (.object ns)) {key : String} {v : Json}
    (hv : (key, v) ∈ ms) : ∃ w, (key, w) ∈ ns ∧ Reordered v w := by
  cases h with
  | object hmembers horder =>
      obtain ⟨w, hw, hreordered⟩ := hmembers.exists_mem hv
      exact ⟨w, horder.mem_iff.1 hw, hreordered⟩

end

/-! ## Heights -/

theorem heightMembers_perm {ms ns : List (String × Json)} (h : ms.Perm ns) :
    Source.heightMembers (sourceMembers ms) = Source.heightMembers (sourceMembers ns) := by
  induction h with
  | nil => rfl
  | cons m _ ih => simp only [sourceMembers, Source.heightMembers, ih]
  | swap m n ms => simp only [sourceMembers, Source.heightMembers, Nat.max_left_comm]
  | trans _ _ ih ih' => rw [ih, ih']

mutual

theorem Reordered.height_le {v w : Json} (h : Reordered v w) :
    v.source.height ≤ w.source.height := by
  match h with
  | .null | .bool _ | .number _ | .string _ => exact Nat.le_refl _
  | .array hitems => exact Nat.succ_le_succ hitems.height_le
  | .object hmembers horder =>
      refine Nat.succ_le_succ (Nat.le_trans hmembers.height_le (Nat.le_of_eq ?_))
      exact heightMembers_perm horder

theorem ReorderedItems.height_le {vs ws : List Json} (h : ReorderedItems vs ws) :
    Source.heightItems (sourceItems vs) ≤ Source.heightItems (sourceItems ws) := by
  match h with
  | .nil => exact Nat.le_refl _
  | .cons hv hvs => exact max_le_max hv.height_le hvs.height_le

theorem ReorderedMembers.height_le {ms ns : List (String × Json)} (h : ReorderedMembers ms ns) :
    Source.heightMembers (sourceMembers ms) ≤ Source.heightMembers (sourceMembers ns) := by
  match h with
  | .nil => exact Nat.le_refl _
  | .cons hv hms => exact max_le_max hv.height_le hms.height_le

end

end ControllerCompanion.Json
