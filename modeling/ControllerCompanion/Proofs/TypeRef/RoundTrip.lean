import ControllerCompanion.Proofs.TypeRef.Reading
import ControllerCompanion.TypeRef.Printer

set_option autoImplicit false

/-! # Printing types and reading them back

A type need not come from a text, and then its name can be anything. The printed form of a type is
read back as that type exactly if every name in it is a base followed by suffixes without blanks:
printing moves the suffixes behind the arguments, reading moves them back, and a name of any other
shape is never the result of reading. -/

namespace ControllerCompanion.TypeRef

open Unicode

/-! ## Well-formed types -/

/-- A suffix without blanks: `?`, or brackets around commas. -/
def IsBareSuffix (s : List Char) : Prop :=
  s = ['?'] ∨ ∃ commas, s = '[' :: List.replicate commas ',' ++ [']']

/-- A name of a base and any number of suffixes without blanks. -/
def IsTypeName (name : List Char) : Prop :=
  ∃ (base : List Char) (suffixes : List (List Char)),
    IsBase base ∧ (∀ s ∈ suffixes, IsBareSuffix s) ∧ name = base ++ suffixes.flatten

/-- A type with such a name, and with such types as its arguments. -/
inductive WellFormed : TypeRef → Prop where
  | type {name : String} {args : List TypeRef} : IsTypeName name.toList →
      (∀ a ∈ args, WellFormed a) → WellFormed ⟨name, args⟩

/-! ## What is read is well formed -/

theorem isBareSuffix_withoutBlanks {s : List Char} (h : IsSuffix s) :
    IsBareSuffix (withoutBlanks s) := by
  cases h with
  | nullable => exact Or.inl (by simp [withoutBlanks])
  | @rank inner hinner =>
      refine Or.inr ⟨(withoutBlanks inner).length, ?_⟩
      have hcommas : withoutBlanks inner = List.replicate (withoutBlanks inner).length ',' := by
        rw [List.eq_replicate_iff]
        refine ⟨rfl, fun c hc => ?_⟩
        obtain ⟨hc, hblank⟩ := List.mem_filter.1 hc
        rcases hinner c hc with rfl | h
        · rfl
        · simp [h] at hblank
      rw [← hcommas, withoutBlanks_append, withoutBlanks_cons (by simp)]
      simp [withoutBlanks]

theorem exists_bareSuffixes {s : List Char} (h : IsSuffixes s) :
    ∃ suffixes : List (List Char), (∀ p ∈ suffixes, IsBareSuffix p) ∧
      withoutBlanks s = suffixes.flatten := by
  induction h with
  | nil => exact ⟨[], by simp, rfl⟩
  | @cons blanks suffix more hblanks hsuffix _ ih =>
      obtain ⟨suffixes, hbare, hflatten⟩ := ih
      refine ⟨withoutBlanks suffix :: suffixes,
        List.forall_mem_cons.2 ⟨isBareSuffix_withoutBlanks hsuffix, hbare⟩, ?_⟩
      rw [withoutBlanks_append, withoutBlanks_append, withoutBlanks_eq_nil hblanks,
        List.nil_append, hflatten, List.flatten_cons]

mutual

theorem Spells.wellFormed {s : List Char} {t : TypeRef} (h : Spells s t) : WellFormed t := by
  match h with
  | .type _ hbase _ _ hargs hsuffixes _ =>
      obtain ⟨suffixes, hbare, hflatten⟩ := exists_bareSuffixes hsuffixes
      refine .type ⟨_, suffixes, hbase, hbare, ?_⟩ hargs.wellFormed
      rw [String.toList_ofList, hflatten]

theorem SpellsArguments.wellFormed {s : List Char} {ts : List TypeRef}
    (h : SpellsArguments s ts) : ∀ t ∈ ts, WellFormed t := by
  match h with
  | .absent => simp
  | .listed hinner => exact hinner.wellFormed

theorem SpellsTypes.wellFormed {s : List Char} {ts : List TypeRef} (h : SpellsTypes s ts) :
    ∀ t ∈ ts, WellFormed t := by
  match h with
  | .last ht => exact List.forall_mem_cons.2 ⟨ht.wellFormed, by simp⟩
  | .more ht hts => exact List.forall_mem_cons.2 ⟨ht.wellFormed, hts.wellFormed⟩

end

/-! ## What is printed is derived -/

theorem startsSuffix_eq_false_of_isNameChar {c : Char} (h : isNameChar c = true) :
    startsSuffix c = false := by
  have hne : ∀ d : Char, isNameChar d = false → c ≠ d := by
    rintro d hd rfl
    exact Bool.false_ne_true (hd.symm.trans h)
  simp [startsSuffix, hne '[' (by decide), hne '?' (by decide)]

/-- Suffixes without blanks are suffixes, and printing finds where they begin. -/
theorem isSuffixes_flatten {suffixes : List (List Char)} (h : ∀ s ∈ suffixes, IsBareSuffix s) :
    IsSuffixes suffixes.flatten ∧ withoutBlanks suffixes.flatten = suffixes.flatten ∧
      ∀ c ∈ suffixes.flatten.head?, startsSuffix c = true := by
  induction suffixes with
  | nil => exact ⟨.nil, rfl, by simp⟩
  | cons s more ih =>
      obtain ⟨hs, hmore⟩ := List.forall_mem_cons.1 h
      obtain ⟨hsuffixes, hbare, -⟩ := ih hmore
      rw [List.flatten_cons]
      have hparts : IsSuffix s ∧ withoutBlanks s = s ∧ ∃ c cs, s = c :: cs ∧
          startsSuffix c = true := by
        rcases hs with rfl | ⟨commas, rfl⟩
        · exact ⟨.nullable, by simp [withoutBlanks], _, _, rfl, rfl⟩
        · refine ⟨.rank fun c hc => Or.inl (List.eq_of_mem_replicate hc), ?_, _, _, rfl, rfl⟩
          simp [withoutBlanks]
      obtain ⟨hsuffix, hwithout, c, cs, hcons, hc⟩ := hparts
      refine ⟨?_, ?_, ?_⟩
      · have hall : IsSuffixes ([] ++ s ++ more.flatten) := .cons isBlanks_nil hsuffix hsuffixes
        simpa using hall
      · rw [withoutBlanks_append, hwithout, hbare]
      · simp [hcons, hc]

theorem baseOf_append {base behind : List Char} (hbase : IsBase base)
    (hbehind : ∀ c ∈ behind.head?, startsSuffix c = true) :
    baseOf (base ++ behind) = base ∧ suffixOf (base ++ behind) = behind := by
  have hplain : ∀ c ∈ base, (!startsSuffix c) = true := fun c hc => by
    simp [startsSuffix_eq_false_of_isNameChar (hbase.2 c hc)]
  unfold baseOf suffixOf
  rw [List.takeWhile_append_of_pos hplain, List.dropWhile_append_of_pos hplain]
  cases behind with
  | nil => simp
  | cons c cs =>
      have hc : startsSuffix c = true := hbehind c (by simp)
      simp [hc]

/-- Blanks before a type belong to it. -/
theorem Spells.prepend_blanks {s w : List Char} {t : TypeRef} (hw : IsBlanks w)
    (h : Spells s t) : Spells (w ++ s) t := by
  cases h with
  | type hbefore hbase hends hgap hargs hsuffixes hafter =>
      have hprepended :=
        Spells.type (hw.append hbefore) hbase hends hgap hargs hsuffixes hafter
      simpa only [List.append_assoc] using hprepended

/-- Types printed behind a first one are derived as types with commas between them. -/
theorem exists_spellsTypes_printFollowing {ts : List TypeRef}
    (hts : ∀ t ∈ ts, Spells t.print t) {s : List Char} {t : TypeRef} (ht : Spells s t) :
    ∃ inner, s ++ printFollowing ts = inner ++ ['>'] ∧ SpellsTypes inner (t :: ts) := by
  induction ts generalizing s t with
  | nil => exact ⟨s, by simp [printFollowing], .last ht⟩
  | cons u us ih =>
      obtain ⟨hu, hus⟩ := List.forall_mem_cons.1 hts
      have hblank : IsBlanks [' '] := by
        intro c hc
        rw [List.mem_singleton.1 hc]
        decide
      obtain ⟨inner, hinner, hspells⟩ := ih hus (hu.prepend_blanks hblank)
      refine ⟨s ++ ',' :: inner, ?_, .more ht hspells⟩
      rw [List.append_assoc, List.cons_append, ← hinner]
      simp [printFollowing]

theorem spellsArguments_printArguments {ts : List TypeRef} (hts : ∀ t ∈ ts, Spells t.print t) :
    SpellsArguments (printArguments ts) ts := by
  cases ts with
  | nil => exact .absent
  | cons t us =>
      obtain ⟨ht, hus⟩ := List.forall_mem_cons.1 hts
      obtain ⟨inner, hinner, hspells⟩ := exists_spellsTypes_printFollowing hus ht
      rw [printArguments, List.cons_append, hinner]
      exact .listed hspells

theorem endsName_printed {args : List TypeRef} {suffixes : List Char}
    (hsuffixes : ∀ c ∈ suffixes.head?, startsSuffix c = true) :
    EndsName (printArguments args ++ suffixes) := by
  cases args with
  | nil =>
      intro c hc
      cases hname : isNameChar c with
      | false => rfl
      | true => exact absurd (hsuffixes c hc) (by simp [startsSuffix_eq_false_of_isNameChar hname])
  | cons t ts =>
      intro c hc
      have hlist : c = '<' := by simpa [printArguments, eq_comm] using hc
      rw [hlist]
      decide

/-- The printed form of a well-formed type is derived as that type. -/
theorem WellFormed.spells_print {t : TypeRef} (h : WellFormed t) : Spells t.print t := by
  induction h with
  | @type name args hname _ ih =>
      obtain ⟨base, suffixes, hbase, hbare, hname⟩ := hname
      obtain ⟨hsuffixes, hwithout, hhead⟩ := isSuffixes_flatten hbare
      obtain ⟨hbaseOf, hsuffixOf⟩ := baseOf_append hbase hhead
      have hends : EndsName (printArguments args ++ suffixes.flatten) := endsName_printed hhead
      have hspells : Spells ([] ++ base ++ [] ++ printArguments args ++ suffixes.flatten ++ [])
          ⟨String.ofList (base ++ withoutBlanks suffixes.flatten), args⟩ :=
        .type isBlanks_nil hbase (by simpa using hends) isBlanks_nil
          (spellsArguments_printArguments ih) hsuffixes isBlanks_nil
      rw [print, hname, hbaseOf, hsuffixOf]
      rw [hwithout, ← hname, String.ofList_toList] at hspells
      simpa using hspells

/-! ## Round trip -/

theorem wellFormed_of_parse {text : String} {t : TypeRef} (h : parse text = .ok t) :
    WellFormed t :=
  (spells_of_parse h).wellFormed

theorem WellFormed.parse_text {t : TypeRef} (h : WellFormed t) : parse t.text = .ok t := by
  refine parse_of_spells ?_
  rw [text, String.toList_ofList]
  exact h.spells_print

/-- **The printed form of a type is read back as that type exactly if the type is well formed**,
    and every type that reading gives is. -/
theorem parse_text_iff_wellFormed (t : TypeRef) :
    (parse t.text = .ok t ↔ WellFormed t) ∧
      ∀ text, parse text = .ok t → WellFormed t ∧ parse t.text = .ok t := by
  refine ⟨⟨wellFormed_of_parse, WellFormed.parse_text⟩, fun text h => ?_⟩
  have hwell := wellFormed_of_parse h
  exact ⟨hwell, hwell.parse_text⟩

/-- Blanks inside suffixes are lost in reading, and the suffixes stand behind the arguments
    again. -/
theorem parse_text_of_ranked_list :
    parse "List < int > [ , ] ?" = .ok ⟨"List[,]?", [⟨"int", []⟩]⟩ ∧
      WellFormed ⟨"List[,]?", [⟨"int", []⟩]⟩ ∧
      parse (text ⟨"List[,]?", [⟨"int", []⟩]⟩) = .ok ⟨"List[,]?", [⟨"int", []⟩]⟩ := by
  have h : parse "List < int > [ , ] ?" = .ok ⟨"List[,]?", [⟨"int", []⟩]⟩ :=
    eq_ok_of_toOption (by decide +kernel)
  exact ⟨h, (parse_text_iff_wellFormed _).2 _ h⟩

end ControllerCompanion.TypeRef
