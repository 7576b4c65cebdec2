import ControllerCompanion.Decoder.Tagged
import ControllerCompanion.Proofs.Outcome
import ControllerCompanion.Proofs.TypeRef.RoundTrip

set_option autoImplicit false

/-! # What decoders yield

A property of all values that a decoder can give, whatever source it is given. That of a list, of
a record or of a tagged value follows from those of its parts. -/

namespace ControllerCompanion.Decoder

open Json

/-- All values that the decoder gives have the property. -/
def Yields {α : Type} (d : Decoder α) (p : α → Prop) : Prop := ∀ st s a, d st s = .ok a → p a

variable {α β : Type} {p : α → Prop}

/-! ## Leaves -/

theorem yields_true (d : Decoder α) : d.Yields fun _ => True := fun _ _ _ _ => trivial

/-- **A type that is decoded is well formed.** -/
theorem yields_typeRef : typeRef.Yields TypeRef.WellFormed := by
  intro st s t h
  rw [typeRef, refine] at h
  split at h
  · simp at h
  next text _ =>
    have hparse : TypeRef.parse text = .ok t := by
      rwa [mapError_eq_ok_iff, mapError_eq_ok_iff] at h
    exact TypeRef.wellFormed_of_parse hparse

theorem wrongKind_ne_ok {s : Source} {wanted : Wanted} {a : α} : wrongKind s wanted ≠ .ok a := by
  unfold wrongKind
  split
  · simp [refuse]
  · simp

/-! ## Lists and optional values -/

theorem items_yields {d : Decoder α} (hd : d.Yields p) {st : Standing} {ss : List Source}
    {as : List α} (h : items d st ss = .ok as) : ∀ a ∈ as, p a := by
  induction ss generalizing as with
  | nil =>
      obtain rfl : [] = as := by simpa [items] using h
      simp
  | cons s ss ih =>
      rw [items] at h
      split at h
      · simp at h
      next a ha =>
        obtain ⟨rest, hrest, rfl⟩ := map_eq_ok_iff.1 h
        exact List.forall_mem_cons.2 ⟨hd st s a ha, ih hrest⟩

theorem Yields.list {d : Decoder α} (hd : d.Yields p) :
    d.list.Yields fun as => ∀ a ∈ as, p a := by
  intro st s as h
  unfold Decoder.list at h
  split at h
  next ss ending _ =>
    split at h
    · simp at h
    next bs hbs _ =>
      obtain rfl : bs = as := by simpa using h
      exact items_yields hd hbs
    · simp at h
  next => exact absurd h wrongKind_ne_ok

theorem Yields.nullable {d : Decoder α} (hd : d.Yields p) :
    d.nullable.Yields fun o => ∀ a ∈ o, p a := by
  intro st s o h
  unfold Decoder.nullable at h
  split at h
  · obtain rfl : none = o := by simpa using h
    simp
  · obtain ⟨a, ha, rfl⟩ := map_eq_ok_iff.1 h
    simpa using hd _ _ a ha

theorem Yields.map {d : Decoder α} {q : β → Prop} {f : α → β} (hd : d.Yields p)
    (hf : ∀ a, p a → q (f a)) : Yields (fun st s => (d st s).map f) q := by
  intro st s b h
  obtain ⟨a, ha, rfl⟩ := map_eq_ok_iff.1 h
  exact hf a (hd st s a ha)

/-! ## Records -/

namespace Record

/-- All values that are read as the record have the property. -/
def Yields (r : Record α) (p : α → Prop) : Prop :=
  ∀ st start slot a, r.read st start slot = .ok a → p a

theorem Yields.pure {a : α} (ha : p a) : (pure a).Yields p := by
  intro st start slot b h
  obtain rfl : a = b := by simpa [Record.pure] using h
  exact ha

theorem Yields.field {name : String} {absence : Absence α} {d : Decoder α}
    (habsent : ∀ named trouble a, absent absence named trouble = .ok a → p a)
    (hd : d.Yields p) : (field name absence d).Yields p := by
  intro st start slot a h
  simp only [Record.field] at h
  split at h
  next position s _ => exact hd st s a (mapError_eq_ok_iff.1 h)
  next named trouble _ => exact habsent named trouble a h
  next => simp at h

theorem Yields.required {name : String} {d : Decoder α} (hd : d.Yields p) :
    (required name d).Yields p :=
  .field (by simp [absent]) hd

theorem Yields.defaulted {name : String} {default : α} {d : Decoder α} (hdefault : p default)
    (hd : d.Yields p) : (defaulted name default d).Yields p := by
  refine .field (fun named trouble a h => ?_) hd
  obtain rfl : default = a := by simpa [absent] using h
  exact hdefault

theorem both_eq_ok_iff {γ : Type} {f : α → β → γ} {x : Except Trouble α} {y : Except Trouble β}
    {c : γ} : both f x y = .ok c ↔ ∃ a b, x = .ok a ∧ y = .ok b ∧ f a b = c := by
  cases x <;> cases y <;> simp [both]

/-- A value made of two parts has a property if the second part has one that makes it so. -/
theorem Yields.and {f : Record (α → β)} {r : Record α} {q : β → Prop}
    (hf : f.Yields fun g => ∀ a, p a → q (g a)) (hr : r.Yields p) : (f.and r).Yields q := by
  intro st start slot b h
  obtain ⟨g, a, hg, ha, rfl⟩ := both_eq_ok_iff.1 h
  exact hf _ _ _ g hg a (hr _ _ _ a ha)

end Record

theorem yields_record {name : RecordName} {r : Record α} (hr : r.Yields p) :
    (record name r).Yields p := by
  intro st s a h
  unfold record at h
  split at h
  next members ending _ =>
    obtain ⟨b, _, hb, _, rfl⟩ := Record.both_eq_ok_iff.1 (mapError_eq_ok_iff.1 h)
    exact hr _ _ _ b hb
  next ss ending _ =>
    split at h
    · simp at h
    next b hb =>
      obtain ⟨_, _, rfl⟩ := map_eq_ok_iff.1 h
      exact hr _ _ _ b hb
  next => exact absurd h wrongKind_ne_ok

/-! ## Tags -/

theorem mem_of_variant {known : List (String × α)} {name : String} {a : α}
    (h : variant known name = .ok a) : a ∈ known.map Prod.snd := by
  unfold variant at h
  split at h
  next b hb =>
    obtain rfl : b = a := by simpa using h
    obtain ⟨before, behind, rfl, -⟩ := List.lookup_eq_some_iff.1 hb
    simp
  next => simp [refuse] at h

theorem mem_of_tag {known : List (String × α)} {st : Standing} {s : Source} {a : α}
    (h : tag known st s = .ok a) : a ∈ known.map Prod.snd := by
  unfold tag at h
  split at h
  next => exact mem_of_variant h
  next i =>
    split at h
    · split at h
      next name b hb =>
        obtain rfl : b = a := by simpa using h
        exact List.mem_map.2 ⟨(name, b), List.mem_of_getElem? hb, rfl⟩
      next => simp [refuse] at h
    · simp [refuse] at h
  next => exact absurd h wrongKind_ne_ok

theorem mem_of_splitTag {key : String} {variants : List (String × α)} {st : Standing}
    {known : Option α} {ending : Ending} {ms others : List (String × Source)} {a : α}
    (hknown : ∀ b ∈ known, b ∈ variants.map Prod.snd)
    (h : splitTag key variants st known ending ms = .ok (a, others)) :
    a ∈ variants.map Prod.snd := by
  induction ms generalizing known others with
  | nil =>
      unfold splitTag at h
      split at h
      next => simp at h
      next b _ =>
        obtain ⟨rfl, -⟩ : b = a ∧ [] = others := by simpa using h
        exact hknown b rfl
      next => simp [refuse] at h
  | cons m ms ih =>
      obtain ⟨k, s⟩ := m
      unfold splitTag at h
      split at h
      · cases known with
        | some b => simp [refuse] at h
        | none =>
            obtain ⟨b, hb, h⟩ := bind_eq_ok_iff.1 h
            exact ih (by simpa using mem_of_tag hb) h
      · obtain ⟨_, _, h⟩ := bind_eq_ok_iff.1 h
        obtain ⟨⟨b, rest⟩, hrest, h⟩ := bind_eq_ok_iff.1 h
        obtain ⟨rfl, -⟩ : b = a ∧ _ = others := by simpa [pure, Except.pure] using h
        exact ih hknown hrest

/-- What is read behind a tag is read by the decoder of one of the variants. -/
theorem yields_internallyTagged {name key : String} {variants : List (String × Decoder α)}
    (hvariants : ∀ d ∈ variants.map Prod.snd, d.Yields p) :
    (internallyTagged name key variants).Yields p := by
  intro st s a h
  unfold internallyTagged at h
  split at h
  next members ending _ =>
    obtain ⟨⟨d, others⟩, hd, h⟩ := bind_eq_ok_iff.1 h
    exact hvariants d (mem_of_splitTag (by simp) hd) _ _ a h
  next => split at h <;> simp [refuse] at h
  next =>
    obtain ⟨d, hd, h⟩ := bind_eq_ok_iff.1 h
    obtain ⟨_, _, h⟩ := bind_eq_ok_iff.1 h
    split at h
    · simp at h
    · exact hvariants d (mem_of_tag hd) _ _ a h
  next => exact absurd h wrongKind_ne_ok

theorem mem_of_choice {known : List (String × α)} {st : Standing} {s : Source} {a : α}
    (h : choice known st s = .ok a) : a ∈ known.map Prod.snd := by
  unfold choice at h
  split at h
  next => exact mem_of_variant h
  next =>
    obtain ⟨b, hb, h⟩ := bind_eq_ok_iff.1 h
    obtain ⟨_, _, h⟩ := bind_eq_ok_iff.1 h
    obtain ⟨_, _, h⟩ := bind_eq_ok_iff.1 h
    obtain rfl : b = a := by simpa [pure, Except.pure] using h
    exact mem_of_variant hb
  next => simp at h
  next => simp at h
  next => simp at h
  next => simp at h
  next =>
    obtain ⟨b, hb, h⟩ := bind_eq_ok_iff.1 h
    obtain ⟨_, _, h⟩ := bind_eq_ok_iff.1 h
    obtain rfl : b = a := by simpa [pure, Except.pure] using h
    exact mem_of_variant hb
  next => simp [refuse] at h
  next => exact absurd h wrongKind_ne_ok

/-- What is read beside a tag is read by the decoder of one of the variants. -/
theorem yields_adjacentlyTagged {name tagKey contentKey : String}
    {variants : List (String × Decoder α)} (hvariants : ∀ d ∈ variants.map Prod.snd, d.Yields p) :
    (adjacentlyTagged name tagKey contentKey variants).Yields p := by
  intro st s a h
  unfold adjacentlyTagged at h
  split at h
  next =>
    split at h
    next => simp [refuse] at h
    next first content more _ =>
      split at h
      · -- the tag comes first
        obtain ⟨d, hd, h⟩ := bind_eq_ok_iff.1 h
        split at h
        · simp [refuse] at h
        · split at h
          · simp [refuse] at h
          · obtain ⟨b, hb, h⟩ := bind_eq_ok_iff.1 h
            obtain ⟨_, _, h⟩ := bind_eq_ok_iff.1 h
            obtain rfl : b = a := by simpa [pure, Except.pure] using h
            exact hvariants d (mem_of_choice hd) _ _ b hb
      · split at h
        · simp [refuse] at h
        · split at h
          · simp [refuse] at h
          · obtain ⟨d, hd, h⟩ := bind_eq_ok_iff.1 h
            obtain ⟨b, hb, h⟩ := bind_eq_ok_iff.1 h
            obtain ⟨_, _, h⟩ := bind_eq_ok_iff.1 h
            obtain rfl : b = a := by simpa [pure, Except.pure] using h
            exact hvariants d (mem_of_choice hd) _ _ b hb
  next => simp [refuse] at h
  next =>
    obtain ⟨_, _, h⟩ := bind_eq_ok_iff.1 h
    simp [refuse] at h
  next =>
    obtain ⟨d, hd, h⟩ := bind_eq_ok_iff.1 h
    obtain ⟨b, hb, h⟩ := bind_eq_ok_iff.1 h
    obtain ⟨_, _, h⟩ := bind_eq_ok_iff.1 h
    obtain rfl : b = a := by simpa [pure, Except.pure] using h
    exact hvariants d (mem_of_tag hd) _ _ b hb
  next => exact absurd h wrongKind_ne_ok

/-! ## Texts -/

/-- What holds of all that a decoder yields holds of what is decoded from a text. -/
theorem Yields.of_ofText {d : Decoder α} (hd : d.Yields p) {text : String} {a : α}
    (h : d.ofText text = .ok a) : p a := by
  simp only [ofText] at h
  split at h
  · simp at h
  next b hb _ =>
    obtain rfl : b = a := by simpa using h
    exact hd _ _ b hb
  · simp at h

end ControllerCompanion.Decoder
