import ControllerCompanion.Decoder.Tagged
import ControllerCompanion.Proofs.Json.Reordered
import ControllerCompanion.Proofs.Keyed
import ControllerCompanion.Proofs.Outcome

set_option autoImplicit false

/-! # Decoding what was written

A value that is written in full has no faults, so a decoder meets nothing in it but values. What a
decoder makes of such a value is put together from what it makes of the parts: of the items of an
array, of the members of an object by their keys, and of the members beside a tag. The order of the
members never counts: what a decoder `Reads`, it reads in any order. -/

namespace ControllerCompanion

open Json

/-! ## Sources of values -/

namespace Json

mutual

theorem readFault?_source (v : Json) : v.source.readFault? = none := by
  cases v with
  | array items => simp [source, Source.readFault?, readFaultItems?_source items, Ending.fault?]
  | object members =>
      simp [source, Source.readFault?, readFaultMembers?_source members, Ending.fault?]
  | null | bool | number | string => rfl

theorem readFaultItems?_source (vs : List Json) :
    Source.readFaultItems? (sourceItems vs) = none := by
  match vs with
  | [] => rfl
  | v :: vs =>
      simp [sourceItems, Source.readFaultItems?, readFault?_source v, readFaultItems?_source vs]

theorem readFaultMembers?_source (ms : List (String × Json)) :
    Source.readFaultMembers? (sourceMembers ms) = none := by
  match ms with
  | [] => rfl
  | (_, v) :: ms =>
      simp [sourceMembers, Source.readFaultMembers?, readFault?_source v,
        readFaultMembers?_source ms]

end

theorem skipFault?_source (v : Json) : v.source.skipFault? = none := by
  cases v with
  | null | bool | number | string | array | object => rfl

theorem sourceMembers_eq_map (ms : List (String × Json)) :
    sourceMembers ms = ms.map fun m => (m.1, m.2.source) := by
  induction ms with
  | nil => rfl
  | cons m ms ih => rw [sourceMembers, ih, List.map_cons]

theorem keys_sourceMembers (ms : List (String × Json)) :
    (sourceMembers ms).map Prod.fst = ms.map Prod.fst := by
  rw [sourceMembers_eq_map, List.map_map]
  rfl

/-! ## Heights -/

theorem height_pos (v : Json) : 0 < v.source.height := by
  cases v with
  | null | bool | number | string => exact Nat.one_pos
  | array | object => exact Nat.succ_pos _

theorem height_le_heightItems {v : Json} {vs : List Json} (h : v ∈ vs) :
    v.source.height ≤ Source.heightItems (sourceItems vs) := by
  induction vs with
  | nil => exact absurd h List.not_mem_nil
  | cons w ws ih =>
      rw [sourceItems, Source.heightItems]
      rcases List.mem_cons.1 h with rfl | h
      · exact Nat.le_max_left ..
      · exact Nat.le_trans (ih h) (Nat.le_max_right ..)

theorem height_le_heightMembers {key : String} {v : Json} {ms : List (String × Json)}
    (h : (key, v) ∈ ms) : v.source.height ≤ Source.heightMembers (sourceMembers ms) := by
  induction ms with
  | nil => exact absurd h List.not_mem_nil
  | cons m ms ih =>
      obtain ⟨k, w⟩ := m
      rw [sourceMembers, Source.heightMembers]
      rcases List.mem_cons.1 h with heq | h
      · obtain ⟨rfl, rfl⟩ := Prod.mk.inj heq
        exact Nat.le_max_left ..
      · exact Nat.le_trans (ih h) (Nat.le_max_right ..)

/-- An item is less high than its array. -/
theorem height_lt_of_mem_items {v : Json} {vs : List Json} (h : v ∈ vs) :
    v.source.height < (Json.array vs).source.height :=
  Nat.lt_succ_of_le (height_le_heightItems h)

/-- The value of a member is less high than its object. -/
theorem height_lt_of_mem_members {key : String} {v : Json} {ms : List (String × Json)}
    (h : (key, v) ∈ ms) : v.source.height < (Json.object ms).source.height :=
  Nat.lt_succ_of_le (height_le_heightMembers h)

/-! ## Members that may be left out -/

theorem keys_memberIfAny_sublist {α : Type} (key : String) (encode : α → Json) (as : List α) :
    ((memberIfAny key encode as).map Prod.fst).Sublist [key] := by
  cases as with
  | nil => exact List.nil_sublist _
  | cons a as => exact List.Sublist.refl _

theorem keys_memberIfSome_sublist {α : Type} (key : String) (encode : α → Json) (o : Option α) :
    ((memberIfSome key encode o).map Prod.fst).Sublist [key] := by
  cases o with
  | none => exact List.nil_sublist _
  | some a => exact List.Sublist.refl _

theorem lookup_memberIfAny_of_ne {α : Type} {encode : α → Json} {as : List α} {key name : String}
    (h : name ≠ key) : (memberIfAny key encode as).lookup name = none :=
  Keyed.lookup_eq_none_of_not_mem fun hmem =>
    h (List.mem_singleton.1 ((keys_memberIfAny_sublist key encode as).subset hmem))

theorem lookup_memberIfSome_of_ne {α : Type} {encode : α → Json} {o : Option α}
    {key name : String} (h : name ≠ key) : (memberIfSome key encode o).lookup name = none :=
  Keyed.lookup_eq_none_of_not_mem fun hmem =>
    h (List.mem_singleton.1 ((keys_memberIfSome_sublist key encode o).subset hmem))

end Json

/-! ## Leaves and lists -/

namespace Decoder

/-- The decoder makes `a` of a value, in whatever standing, and in whatever order the members of the
    objects in the value are. -/
def Reads {α : Type} (d : Decoder α) (v : Json) (a : α) : Prop :=
  ∀ w, v.Reordered w → ∀ st, d st w.source = .ok a

theorem Reads.self {α : Type} {d : Decoder α} {v : Json} {a : α} (h : Reads d v a)
    (st : Standing) : d st v.source = .ok a :=
  h v (.refl v) st

theorem reads_string (s : String) : Reads string (.string s) s := by
  intro w hw st
  cases hw
  rfl

theorem reads_choice {α : Type} {known : List (String × α)} {name : String} {a : α}
    (h : known.lookup name = some a) : Reads (choice known) (.string name) a := by
  intro w hw st
  cases hw
  simp [source, choice, variant, h]

theorem reads_nullable {α : Type} {d : Decoder α} {v : Json} {a : α} (hv : v ≠ .null)
    (h : Reads d v a) : Reads (nullable d) v (some a) := by
  intro w hw st
  have hsome : (d st w.source).map some = .ok (some a) := by rw [h w hw st]; rfl
  cases hw with
  | null => exact absurd rfl hv
  | bool | number | string | array | object => exact hsome

/-- A value that is written as `null` when there is none. -/
theorem reads_nullable_encode {α : Type} {d : Decoder α} {encode : α → Json} {o : Option α}
    (hne : ∀ a, encode a ≠ .null) (h : ∀ a ∈ o, Reads d (encode a) a) :
    Reads (nullable d) (Json.nullable encode o) o := by
  cases o with
  | some a => exact reads_nullable (hne a) (h a rfl)
  | none =>
      intro w hw st
      cases hw
      rfl

theorem items_eq_ok {α : Type} {d : Decoder α} {encode : α → Json} {as : List α} {ws : List Json}
    (hws : ReorderedItems (as.map encode) ws) (h : ∀ a ∈ as, Reads d (encode a) a)
    (st : Standing) : items d st (sourceItems ws) = .ok as := by
  induction as generalizing ws with
  | nil =>
      cases hws
      rfl
  | cons a as ih =>
      cases hws with
      | cons hw hws =>
          obtain ⟨ha, has⟩ := List.forall_mem_cons.1 h
          simp only [sourceItems, items, ha _ hw st, ih hws has, Except.map]

theorem reads_list {α : Type} {d : Decoder α} {encode : α → Json} {as : List α}
    (h : ∀ a ∈ as, Reads d (encode a) a) : Reads (list d) (.array (as.map encode)) as := by
  intro w hw st
  cases hw with
  | array hitems => simp only [source, list, items_eq_ok hitems h st, Ending.fault?]

/-! ## Records -/

/-- The member that is found is the one with the key. -/
theorem lookup_sourceMembers (name : String) (position : Nat) (ms : List (String × Json)) :
    (lookup name position (sourceMembers ms)).map Prod.snd = (ms.lookup name).map source := by
  induction ms generalizing position with
  | nil => rfl
  | cons m ms ih =>
      obtain ⟨key, v⟩ := m
      rw [sourceMembers, lookup, List.lookup_cons]
      by_cases hkey : key = name
      · simp [hkey]
      · have hbeq : (name == key) = false := by simpa using Ne.symm hkey
        rw [if_neg hkey, hbeq]
        exact ih (position + 1)

namespace Record

variable {α β : Type}

/-- The record makes `a` of the members that a reader meets in an object. -/
def ReadsFrom (r : Record α) (ms : List (String × Source)) (a : α) : Prop :=
  ∀ st start, r.read st start (namedSlot ms) = .ok a

theorem ReadsFrom.pure {ms : List (String × Source)} (a : α) : (pure a).ReadsFrom ms a :=
  fun _ _ => rfl

theorem ReadsFrom.and {f : Record (α → β)} {r : Record α} {ms : List (String × Source)}
    {g : α → β} {a : α} (hf : f.ReadsFrom ms g) (hr : r.ReadsFrom ms a) :
    (f.and r).ReadsFrom ms (g a) := by
  intro st start
  simp only [Record.and, hf st start, hr st (start + f.names.length), both]

/-- The record makes `a` of the members of an object, in whatever order they are. -/
def Reads {α : Type} (r : Record α) (ms : List (String × Json)) (a : α) : Prop :=
  ∀ ns, (Json.object ms).Reordered (.object ns) → (ns.map Prod.fst).Nodup →
    r.ReadsFrom (sourceMembers ns) a

variable {ms : List (String × Json)}

theorem Reads.pure (a : α) : (pure a).Reads ms a := fun _ _ _ => ReadsFrom.pure a

theorem Reads.and {f : Record (α → β)} {r : Record α} {g : α → β} {a : α} (hf : f.Reads ms g)
    (hr : r.Reads ms a) : (f.and r).Reads ms (g a) :=
  fun ns hns hnodup => ReadsFrom.and (hf ns hns hnodup) (hr ns hns hnodup)

/-- A field whose key is there is read off its member, wherever that stands. -/
theorem Reads.field {name : String} {absence : Absence α} {d : Decoder α} {v : Json} {a : α}
    (hv : ms.lookup name = some v) (h : Decoder.Reads d v a) :
    (field name absence d).Reads ms a := by
  intro ns hns hnodup st start
  obtain ⟨w, hw, hreordered⟩ := hns.exists_mem (Keyed.mem_of_lookup_eq_some hv)
  obtain ⟨⟨position, s⟩, hs, hsnd⟩ : ∃ found, lookup name 0 (sourceMembers ns) = some found ∧
      found.2 = w.source := by
    have hfound := lookup_sourceMembers name 0 ns
    rw [(Keyed.lookup_eq_some_iff_mem hnodup).2 hw] at hfound
    simpa [Option.map_eq_some_iff] using hfound
  have hread : d st s = .ok a := by
    rw [show s = w.source from hsnd]
    exact h w hreordered st
  simp only [Record.field, namedSlot, hs, hread, mapError_ok]

/-- A field with a default value has it where its key is not there. -/
theorem Reads.default {name : String} {default : α} {d : Decoder α}
    (hv : ms.lookup name = none) : (defaulted name default d).Reads ms default := by
  intro ns hns _ st start
  have habsent : name ∉ ns.map Prod.fst := fun hmem =>
    Keyed.not_mem_of_lookup_eq_none hv (hns.keys_perm.mem_iff.1 hmem)
  have hnone : lookup name 0 (sourceMembers ns) = none := by
    have hfound := lookup_sourceMembers name 0 ns
    rw [Keyed.lookup_eq_none_of_not_mem habsent] at hfound
    simpa using hfound
  simp only [defaulted, Record.field, namedSlot, hnone, absent]

/-- A list that is left out when it is empty. -/
theorem Reads.ifAny {key : String} (encode : α → Json) {d : Decoder α} {as : List α}
    (hv : ms.lookup key = (memberIfAny key encode as).lookup key)
    (h : ∀ a ∈ as, Decoder.Reads d (encode a) a) :
    (defaulted key [] (list d)).Reads ms as := by
  cases as with
  | nil => exact .default hv
  | cons a as =>
      have hkey : ms.lookup key = some (.array ((a :: as).map encode)) := by
        simpa [memberIfAny] using hv
      exact .field hkey (reads_list h)

/-- A value that is left out when there is none. -/
theorem Reads.ifSome {key : String} (encode : α → Json) {d : Decoder α} {o : Option α}
    (hv : ms.lookup key = (memberIfSome key encode o).lookup key)
    (hne : ∀ a, encode a ≠ .null) (h : ∀ a ∈ o, Decoder.Reads d (encode a) a) :
    (defaulted key none (nullable d)).Reads ms o := by
  cases o with
  | none => exact .default hv
  | some a =>
      have hkey : ms.lookup key = some (encode a) := by
        simpa [memberIfSome] using hv
      exact .field hkey (reads_nullable (hne a) (h a rfl))

end Record

/-- Members are no trouble if no known key is there twice and the others can be skipped. -/
theorem strayTrouble_eq_ok {names seen : List String} {position : Nat}
    {ms : List (String × Source)} (hnodup : ((ms.map Prod.fst).filter (· ∈ names)).Nodup)
    (hseen : ∀ key ∈ ms.map Prod.fst, key ∈ names → key ∉ seen)
    (hskip : ∀ m ∈ ms, m.1 ∉ names → m.2.skipFault? = none) :
    strayTrouble names seen position .closed ms = .ok () := by
  induction ms generalizing seen position with
  | nil => rfl
  | cons m ms ih =>
      obtain ⟨key, s⟩ := m
      obtain ⟨hkey, hmore⟩ := List.forall_mem_cons.1 hseen
      obtain ⟨hskipped, hbehind⟩ := List.forall_mem_cons.1 hskip
      rw [List.map_cons] at hnodup
      rw [strayTrouble]
      by_cases hknown : key ∈ names
      · -- a known key counts as seen from here on, and the known keys behind it are other ones
        rw [List.filter_cons_of_pos (by simpa using hknown), List.nodup_cons] at hnodup
        have hnew : ∀ k ∈ ms.map Prod.fst, k ∈ names → k ∉ key :: seen := by
          intro k hk hkname hmem
          rcases List.mem_cons.1 hmem with rfl | hmem
          · exact hnodup.1 (List.mem_filter.2 ⟨hk, decide_eq_true hkname⟩)
          · exact hmore k hk hkname hmem
        rw [if_pos (by simpa using hknown), if_neg (by simpa using hkey hknown)]
        exact ih hnodup.2 hnew hbehind
      · rw [List.filter_cons_of_neg (by simpa using hknown)] at hnodup
        rw [if_neg (by simpa using hknown), hskipped hknown]
        exact ih hnodup hmore hbehind

/-- **A record is read off an object in which no known key is there twice.** -/
theorem record_eq_ok {α : Type} {name : RecordName} {r : Record α} {ms : List (String × Source)}
    {skipping : Option Fault} {a : α} (hnodup : ((ms.map Prod.fst).filter (· ∈ r.names)).Nodup)
    (hskip : ∀ m ∈ ms, m.1 ∉ r.names → m.2.skipFault? = none) (hr : r.ReadsFrom ms a)
    (st : Standing) : record name r st (.object ms .closed skipping) = .ok a := by
  have hstray : strayTrouble r.names [] 0 .closed ms = .ok () :=
    strayTrouble_eq_ok hnodup (by simp) hskip
  simp only [record, hr st 0, hstray, both, mapError_ok]

/-- **A record is read off an object with distinct keys.** -/
theorem reads_record {α : Type} {name : RecordName} {r : Record α} {ms : List (String × Json)}
    {a : α} (hnodup : (ms.map Prod.fst).Nodup) (hr : r.Reads ms a) :
    Reads (record name r) (.object ms) a := by
  intro w hw st
  cases hw with
  | @object _ _ ns hmembers horder =>
      have hns : (Json.object ms).Reordered (.object ns) := .object hmembers horder
      have hdistinct : (ns.map Prod.fst).Nodup := hns.keys_perm.nodup_iff.2 hnodup
      refine record_eq_ok ?_ ?_ (hr ns hns hdistinct) st
      · rw [keys_sourceMembers]
        exact hdistinct.filter _
      · rw [sourceMembers_eq_map]
        exact List.forall_mem_map.2 fun m _ _ => skipFault?_source m.2

/-! ## Tags -/

theorem setAside_source (v : Json) : setAside v.source = .ok v.source := by
  rw [setAside, readFault?_source]

/-- Members without the key of the tag are all set aside. -/
theorem splitTag_sourceMembers {α : Type} {key : String} {variants : List (String × α)}
    {st : Standing} {a : α} {ms : List (String × Json)} (hkey : key ∉ ms.map Prod.fst) :
    splitTag key variants st (some a) .closed (sourceMembers ms)
      = .ok (a, sourceMembers ms) := by
  induction ms with
  | nil => rfl
  | cons m ms ih =>
      obtain ⟨k, v⟩ := m
      rw [List.map_cons, List.mem_cons, not_or] at hkey
      rw [sourceMembers, splitTag, if_neg (Ne.symm hkey.1), setAside_source, ih hkey.2]
      rfl

/-- The tag is found wherever it stands among the members. -/
theorem splitTag_eq_ok {α : Type} {key name : String} {variants : List (String × α)} {a : α}
    (hname : variants.lookup name = some a) {st : Standing} {front back : List (String × Json)}
    (hfront : key ∉ front.map Prod.fst) (hback : key ∉ back.map Prod.fst) :
    splitTag key variants st none .closed (sourceMembers (front ++ (key, .string name) :: back))
      = .ok (a, sourceMembers (front ++ back)) := by
  induction front with
  | nil =>
      have htag : tag variants st (source (.string name)) = .ok a := by
        simp [source, tag, variant, hname]
      rw [List.nil_append, sourceMembers, splitTag, if_pos rfl]
      simp only [htag]
      exact splitTag_sourceMembers hback
  | cons m front ih =>
      obtain ⟨k, v⟩ := m
      rw [List.map_cons, List.mem_cons, not_or] at hfront
      rw [List.cons_append, sourceMembers, splitTag, if_neg (Ne.symm hfront.1), setAside_source,
        ih hfront.2]
      rfl

/-- **A tagged value is read off its members by the decoder of its variant**, whether the tag stands
before the fields, among them or behind them. -/
theorem reads_internallyTagged {α : Type} {name key tag : String}
    {variants : List (String × Decoder α)} {d : Decoder α} {ms : List (String × Json)} {a : α}
    (hd : variants.lookup tag = some d) (hkey : key ∉ ms.map Prod.fst)
    (h : Reads d (.object ms) a) :
    Reads (internallyTagged name key variants) (.object ((key, .string tag) :: ms)) a := by
  intro w hw st
  cases hw with
  | object hmembers horder =>
      cases hmembers with
      | cons htag hothers =>
          cases htag
          obtain ⟨front, back, rfl, hrest⟩ := Keyed.exists_split_of_cons_perm horder
          have hnone : key ∉ (front ++ back).map Prod.fst := by
            rwa [(hrest.map Prod.fst).mem_iff, hothers.keys_eq]
          rw [List.map_append, List.mem_append, not_or] at hnone
          rw [source, internallyTagged, splitTag_eq_ok hd hnone.1 hnone.2]
          exact h (.object (front ++ back)) (.object hothers hrest.symm) .setAside

/-- A value with its tag beside it, before or behind. -/
theorem reads_adjacentlyTagged {α : Type} {name tagKey contentKey tag : String}
    {variants : List (String × Decoder α)} {d : Decoder α} {v : Json} {a : α}
    (hkeys : tagKey ≠ contentKey) (hd : variants.lookup tag = some d) (h : Reads d v a) :
    Reads (adjacentlyTagged name tagKey contentKey variants)
      (.object [(tagKey, .string tag), (contentKey, v)]) a := by
  intro w hw st
  have hchoice : choice variants st (.string tag) = .ok d := (reads_choice hd).self st
  cases hw with
  | object hmembers horder =>
      obtain _ | ⟨htag, _ | ⟨hcontent, hnone⟩⟩ := hmembers
      cases htag
      cases hnone
      obtain ⟨front, back, rfl, hrest⟩ := Keyed.exists_split_of_cons_perm horder
      have hread := h _ hcontent
      rcases List.append_eq_singleton_iff.1 (List.perm_singleton.1 hrest) with
        ⟨rfl, rfl⟩ | ⟨rfl, rfl⟩
      · simp [source, sourceMembers, adjacentlyTagged, hchoice, hkeys.symm, hread st, nothingAgain,
          bind, Except.bind, pure, Except.pure]
      · simp [source, sourceMembers, adjacentlyTagged, hchoice, hkeys, hkeys.symm,
          hread .setAside, nothingAgain, bind, Except.bind, pure, Except.pure]

end Decoder

end ControllerCompanion
