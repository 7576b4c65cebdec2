import ControllerCompanion.Proofs.Decoder.Written

set_option autoImplicit false

/-! # Decoding what names some fields

An object that stands for a record with default values names the fields it wants, in any order, and
may hold members that the record does not know. What is decoded from it has the values of the named
fields and the default values of the others (`ReadsNamed.record`), and so for the objects in it. -/

namespace ControllerCompanion

open Json

namespace Json

/-- A source that names some fields of a value. Of an object it has the members whose keys are
    `named`, each once and in any order; members with other keys may stand among them, as long as a
    reader can skip them. The objects in it name some of their fields in turn: `named` tells a field
    by the keys that lead to it. All other values are there as they are. -/
inductive Names : (List String → Bool) → Json → Source → Prop where
  | leaf {named : List String → Bool} {v : Json} (hleaf : ∀ members, v ≠ .object members) :
      Names named v v.source
  | object {named : List String → Bool} {fields : List (String × Json)}
      {members : List (String × Source)} {skipping : Option Fault}
      (hkeys : ((members.map Prod.fst).filter (· ∈ fields.map Prod.fst)).Perm
        ((fields.map Prod.fst).filter (named [·])))
      (hvalues : ∀ key v s, (key, v) ∈ fields → (key, s) ∈ members →
        Names (fun path => named (key :: path)) v s)
      (hothers : ∀ m ∈ members, m.1 ∉ fields.map Prod.fst → m.2.skipFault? = none) :
      Names named (.object fields) (.object members .closed skipping)

/-- An object that is there as a value. Only the members with known keys need to be looked at. -/
theorem names_object {named : List String → Bool} {fields members : List (String × Json)}
    (hnodup : (fields.map Prod.fst).Nodup)
    (hkeys : ((members.map Prod.fst).filter (· ∈ fields.map Prod.fst)).Perm
      ((fields.map Prod.fst).filter (named [·])))
    (hvalues : ∀ m ∈ members, ∀ v, fields.lookup m.1 = some v →
      Names (fun path => named (m.1 :: path)) v m.2.source) :
    Names named (.object fields) (Json.object members).source := by
  refine .object ?keys ?values ?others
  case keys => rwa [keys_sourceMembers]
  case values =>
    intro key v s hv hs
    rw [sourceMembers_eq_map] at hs
    obtain ⟨m, hm, heq⟩ := List.mem_map.1 hs
    obtain ⟨rfl, rfl⟩ := Prod.mk.inj heq
    exact hvalues m hm v ((Keyed.lookup_eq_some_iff_mem hnodup).2 hv)
  case others =>
    rw [sourceMembers_eq_map]
    exact List.forall_mem_map.2 fun m _ _ => skipFault?_source m.2

/-- A field is found by its key, so only one value has to be named under it. -/
theorem names_of_lookup {fields : List (String × Json)} {key : String}
    {named : List String → Bool} {v : Json} {s : Source} (hfield : fields.lookup key = some v)
    (hs : Names named v s) : ∀ w, fields.lookup key = some w → Names named w s := by
  intro w hw
  obtain rfl : v = w := Option.some.inj (hfield.symm.trans hw)
  exact hs

/-! ## The shortest way to name fields -/

mutual

/-- The value with the named fields of its objects alone. -/
def only (named : List String → Bool) : Json → Json
  | .object fields => .object (onlyMembers named fields)
  | v => v

/-- The named fields of an object. -/
def onlyMembers (named : List String → Bool) : List (String × Json) → List (String × Json)
  | [] => []
  | (key, v) :: fields =>
    if named [key] then
      (key, only (fun path => named (key :: path)) v) :: onlyMembers named fields
    else onlyMembers named fields

end

mutual

/-- No object in the value has a key twice, down to its fields; arrays are not looked into. -/
def DistinctKeys : Json → Prop
  | .object fields => (fields.map Prod.fst).Nodup ∧ DistinctKeysMembers fields
  | _ => True

/-- The same for the values of the fields of an object. -/
def DistinctKeysMembers : List (String × Json) → Prop
  | [] => True
  | (_, v) :: fields => DistinctKeys v ∧ DistinctKeysMembers fields

end

theorem onlyMembers_eq_map (named : List String → Bool) (fields : List (String × Json)) :
    onlyMembers named fields
      = (fields.filter fun f => named [f.1]).map fun f =>
          (f.1, f.2.only fun path => named (f.1 :: path)) := by
  induction fields with
  | nil => rfl
  | cons f fields ih =>
      obtain ⟨key, v⟩ := f
      rw [onlyMembers, ih]
      by_cases h : named [key] = true <;> simp [h]

theorem keys_onlyMembers (named : List String → Bool) (fields : List (String × Json)) :
    (onlyMembers named fields).map Prod.fst = (fields.map Prod.fst).filter (named [·]) := by
  rw [onlyMembers_eq_map, List.map_map, List.filter_map]
  rfl

mutual

/-- The value with the named fields alone names them. -/
theorem names_only : (v : Json) → v.DistinctKeys → (named : List String → Bool) →
    Names named v (v.only named).source
  | .object fields, h, named => by
    refine names_object h.1 ?keys ?values
    case keys =>
      have hall : ∀ key ∈ (fields.map Prod.fst).filter (named [·]),
          key ∈ fields.map Prod.fst := fun _ hkey => (List.mem_filter.1 hkey).1
      rw [keys_onlyMembers, List.filter_eq_self.2 (by simpa using hall)]
    case values =>
      intro m hm v hv
      rw [onlyMembers_eq_map] at hm
      obtain ⟨f, hf, rfl⟩ := List.mem_map.1 hm
      have hfield : f ∈ fields := (List.mem_filter.1 hf).1
      -- the field of the key is the one that was kept
      obtain rfl : f.2 = v := by
        rw [(Keyed.lookup_eq_some_iff_mem h.1).2 hfield] at hv
        exact Option.some.inj hv
      exact names_only_of_mem fields h.2 named hfield
  | .null, _, _ => .leaf (by simp)
  | .bool _, _, _ => .leaf (by simp)
  | .number _, _, _ => .leaf (by simp)
  | .string _, _, _ => .leaf (by simp)
  | .array _, _, _ => .leaf (by simp)

theorem names_only_of_mem : (fields : List (String × Json)) → DistinctKeysMembers fields →
    (named : List String → Bool) → {key : String} → {v : Json} → (key, v) ∈ fields →
    Names (fun path => named (key :: path)) v (v.only fun path => named (key :: path)).source
  | [], _, _, _, _, hv => absurd hv List.not_mem_nil
  | (first, w) :: fields, h, named, key, v, hv => by
    rcases List.mem_cons.1 hv with heq | hv
    · obtain ⟨rfl, rfl⟩ := Prod.mk.inj heq
      exact names_only v h.1 _
    · exact names_only_of_mem fields h.2 named hv

end

end Json

namespace Decoder

/-- The member that is found is there. -/
theorem mem_of_lookup {name : String} {position : Nat} {members : List (String × Source)}
    {found : Nat × Source} (h : lookup name position members = some found) :
    (name, found.2) ∈ members := by
  induction members generalizing position with
  | nil => cases h
  | cons m members ih =>
      obtain ⟨key, s⟩ := m
      rw [lookup] at h
      split at h
      next hkey =>
        subst hkey
        obtain rfl := Option.some.inj h
        exact List.mem_cons_self
      next => exact List.mem_cons_of_mem _ (ih h)

theorem lookup_isSome_iff (name : String) (position : Nat) (members : List (String × Source)) :
    (lookup name position members).isSome ↔ name ∈ members.map Prod.fst := by
  induction members generalizing position with
  | nil => simp [lookup]
  | cons m members ih =>
      obtain ⟨key, s⟩ := m
      rw [lookup]
      by_cases hkey : key = name
      · simp [hkey]
      · rw [if_neg hkey, ih]
        simp [Ne.symm hkey]

/-- The decoder makes `a` of every source that names these fields of a value. -/
def ReadsNamed {α : Type} (d : Decoder α) (named : List String → Bool) (v : Json) (a : α) : Prop :=
  ∀ s, Names named v s → ∀ st, d st s = .ok a

variable {α : Type} {named : List String → Bool}

theorem ReadsNamed.leaf {d : Decoder α} {v : Json} {a : α} (hleaf : ∀ members, v ≠ .object members)
    (h : Reads d v a) : ReadsNamed d named v a := by
  intro s hs
  cases hs with
  | leaf _ => exact h.self
  | object _ _ _ => exact absurd rfl (hleaf _)

theorem readsNamed_string (text : String) : ReadsNamed string named (.string text) text :=
  .leaf (by simp) (reads_string text)

theorem readsNamed_strings (texts : List String) :
    ReadsNamed (list string) named (strings texts) texts :=
  .leaf (by simp [strings]) (reads_list fun text _ => reads_string text)

/-- A field has its own value if it is named, and its default value if it is not. -/
theorem Record.ReadsFrom.defaulted {fields : List (String × Json)}
    {members : List (String × Source)} {skipping : Option Fault} {key : String} {v : Json}
    {default a : α} {d : Decoder α}
    (h : Names named (.object fields) (.object members .closed skipping))
    (hv : (key, v) ∈ fields) (hread : ReadsNamed d (fun path => named (key :: path)) v a) :
    (Record.defaulted key default d).ReadsFrom members (if named [key] then a else default) := by
  intro st start
  cases h with
  | leaf hleaf => exact absurd rfl (hleaf _)
  | object hkeys hvalues _ =>
      have hfield : key ∈ fields.map Prod.fst := List.mem_map.2 ⟨_, hv, rfl⟩
      have hpresent : key ∈ members.map Prod.fst ↔ named [key] = true := by
        have hmem := hkeys.mem_iff (a := key)
        simpa only [List.mem_filter, hfield, decide_true, and_true, true_and] using hmem
      simp only [Record.defaulted, Record.field, namedSlot]
      cases hfound : lookup key 0 members with
      | none =>
          have habsent : ¬named [key] = true := by
            rw [← hpresent, ← lookup_isSome_iff key 0, hfound]
            exact Bool.false_ne_true
          rw [if_neg habsent]
          rfl
      | some found =>
          obtain ⟨position, s⟩ := found
          have hnamed : named [key] = true := by
            rw [← hpresent, ← lookup_isSome_iff key 0, hfound]
            rfl
          have hs : Names (fun path => named (key :: path)) v s :=
            hvalues key v s hv (mem_of_lookup hfound)
          rw [if_pos hnamed]
          simp only [hread s hs st, mapError_ok]

theorem Record.ReadsFrom.string {fields : List (String × Json)}
    {members : List (String × Source)} {skipping : Option Fault} {key own default : String}
    (h : Names named (.object fields) (.object members .closed skipping))
    (hv : (key, .string own) ∈ fields) :
    (Record.defaulted key default Decoder.string).ReadsFrom members
      (if named [key] then own else default) :=
  .defaulted h hv (readsNamed_string own)

theorem Record.ReadsFrom.strings {fields : List (String × Json)}
    {members : List (String × Source)} {skipping : Option Fault} {key : String}
    {own default : List String}
    (h : Names named (.object fields) (.object members .closed skipping))
    (hv : (key, Json.strings own) ∈ fields) :
    (Record.defaulted key default (list Decoder.string)).ReadsFrom members
      (if named [key] then own else default) :=
  .defaulted h hv (readsNamed_strings own)

/-- **A record is read off an object that names some of its fields.** -/
theorem ReadsNamed.record {name : RecordName} {r : Record α} {fields : List (String × Json)}
    {a : α} (hnames : r.names = fields.map Prod.fst) (hnodup : (fields.map Prod.fst).Nodup)
    (hr : ∀ members skipping, Names named (.object fields) (.object members .closed skipping) →
      r.ReadsFrom members a) :
    ReadsNamed (record name r) named (.object fields) a := by
  intro s hs st
  cases hs with
  | leaf hleaf => exact absurd rfl (hleaf _)
  | @object _ _ members skipping hkeys hvalues hothers =>
      refine record_eq_ok ?_ ?_ (hr members skipping (.object hkeys hvalues hothers)) st
      · rw [hnames, hkeys.nodup_iff]
        exact hnodup.filter _
      · rwa [hnames]

end Decoder

end ControllerCompanion
