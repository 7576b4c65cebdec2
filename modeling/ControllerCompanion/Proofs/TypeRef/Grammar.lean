import ControllerCompanion.Proofs.CharacterClasses
import Mathlib.Data.List.TakeWhile

set_option autoImplicit false

/-! # The grammar of type references

`Spells s t` says that the text `s` is derived as the type `t`, by the rules

    Type      ::= blank* Base blank* Arguments (blank* Suffix)* blank*
    Arguments ::= nothing | '<' Type (',' Type)* '>'
    Suffix    ::= '?' | '[' (',' | blank)* ']'

where a base is a run of name characters that no further name character follows. A suffix stands
behind the arguments, yet it is kept in the name, without its blanks. The rules say nothing of how
a text is read; `ControllerCompanion.Proofs.TypeRef.Reading` does. -/

namespace ControllerCompanion.TypeRef

open Unicode

/-! ## Rules -/

/-- A text of blanks. -/
def IsBlanks (s : List Char) : Prop := ∀ c ∈ s, isBlank c = true

/-- The text without its blanks. -/
def withoutBlanks (s : List Char) : List Char := s.filter fun c => !isBlank c

/-- A base name: at least one name character, and nothing else. -/
def IsBase (base : List Char) : Prop := base ≠ [] ∧ ∀ c ∈ base, isNameChar c = true

/-- A text that does not go on with a name that stands before it. -/
def EndsName (behind : List Char) : Prop := ∀ c ∈ behind.head?, isNameChar c = false

/-- A suffix: `?`, or brackets around any mix of commas and blanks. -/
inductive IsSuffix : List Char → Prop where
  | nullable : IsSuffix ['?']
  | rank {inner : List Char} : (∀ c ∈ inner, c = ',' ∨ isBlank c = true) →
      IsSuffix ('[' :: inner ++ [']'])

/-- Any number of suffixes, with blanks before each of them. -/
inductive IsSuffixes : List Char → Prop where
  | nil : IsSuffixes []
  | cons {blanks suffix more : List Char} : IsBlanks blanks → IsSuffix suffix →
      IsSuffixes more → IsSuffixes (blanks ++ suffix ++ more)

mutual

/-- The text is derived as the type. -/
inductive Spells : List Char → TypeRef → Prop where
  | type {before base gap list suffixes after : List Char} {args : List TypeRef} :
      IsBlanks before → IsBase base → EndsName (gap ++ list ++ suffixes ++ after) →
      IsBlanks gap → SpellsArguments list args → IsSuffixes suffixes → IsBlanks after →
      Spells (before ++ base ++ gap ++ list ++ suffixes ++ after)
        ⟨String.ofList (base ++ withoutBlanks suffixes), args⟩

/-- The text is derived as an argument list, or it is empty and there are no arguments. -/
inductive SpellsArguments : List Char → List TypeRef → Prop where
  | absent : SpellsArguments [] []
  | listed {inner : List Char} {args : List TypeRef} : SpellsTypes inner args →
      SpellsArguments ('<' :: inner ++ ['>']) args

/-- The text is derived as types with commas between them. -/
inductive SpellsTypes : List Char → List TypeRef → Prop where
  | last {s : List Char} {t : TypeRef} : Spells s t → SpellsTypes s [t]
  | more {s behind : List Char} {t : TypeRef} {ts : List TypeRef} : Spells s t →
      SpellsTypes behind ts → SpellsTypes (s ++ ',' :: behind) (t :: ts)

end

/-! ## Blanks -/

theorem skipBlanks_append {w s : List Char} (hw : IsBlanks w) :
    skipBlanks (w ++ s) = skipBlanks s :=
  List.dropWhile_append_of_pos hw

theorem skipBlanks_eq_self {s : List Char} (h : ∀ c ∈ s.head?, isBlank c = false) :
    skipBlanks s = s := by
  cases s with
  | nil => rfl
  | cons c cs =>
      have hc : isBlank c = false := h c (by simp)
      simp [skipBlanks, hc]

/-- What is skipped is a text of blanks. -/
theorem exists_blanks_append_skipBlanks (s : List Char) :
    ∃ w, IsBlanks w ∧ s = w ++ skipBlanks s :=
  ⟨s.takeWhile isBlank, fun _ hc => List.mem_takeWhile_imp hc,
    (List.takeWhile_append_dropWhile (p := isBlank)).symm⟩

theorem withoutBlanks_append (s s' : List Char) :
    withoutBlanks (s ++ s') = withoutBlanks s ++ withoutBlanks s' :=
  List.filter_append ..

theorem withoutBlanks_cons_of_isBlank {c : Char} {s : List Char} (hc : isBlank c = true) :
    withoutBlanks (c :: s) = withoutBlanks s := by
  simp [withoutBlanks, hc]

theorem withoutBlanks_cons {c : Char} {s : List Char} (hc : isBlank c = false) :
    withoutBlanks (c :: s) = c :: withoutBlanks s := by
  simp [withoutBlanks, hc]

theorem withoutBlanks_eq_nil {w : List Char} (hw : IsBlanks w) : withoutBlanks w = [] := by
  rw [withoutBlanks, List.filter_eq_nil_iff]
  intro c hc
  simp [hw c hc]

theorem isBlanks_nil : IsBlanks [] := by simp [IsBlanks]

theorem IsBlanks.append {w w' : List Char} (hw : IsBlanks w) (hw' : IsBlanks w') :
    IsBlanks (w ++ w') :=
  fun c hc => (List.mem_append.1 hc).elim (hw c) (hw' c)

theorem isBlanks_cons {c : Char} {w : List Char} (hc : isBlank c = true) (hw : IsBlanks w) :
    IsBlanks (c :: w) :=
  List.forall_mem_cons.2 ⟨hc, hw⟩

/-! ## Suffixes -/

/-- What can follow an opened bracket: the rest of the suffix it begins, then further suffixes. -/
inductive EndsRank : List Char → Prop where
  | close {more : List Char} : IsSuffixes more → EndsRank (']' :: more)
  | skip {c : Char} {s : List Char} : c = ',' ∨ isBlank c = true → EndsRank s → EndsRank (c :: s)

theorem isSuffixes_nullable {more : List Char} (h : IsSuffixes more) :
    IsSuffixes ('?' :: more) := by
  have hsuffix : IsSuffixes ([] ++ ['?'] ++ more) := .cons isBlanks_nil .nullable h
  simpa using hsuffix

/-- The bracket is closed behind commas and blanks. -/
theorem EndsRank.exists_inner {s : List Char} (h : EndsRank s) : ∃ inner more,
    (∀ c ∈ inner, c = ',' ∨ isBlank c = true) ∧ IsSuffixes more ∧ s = inner ++ ']' :: more := by
  induction h with
  | close hmore => exact ⟨[], _, by simp, hmore, rfl⟩
  | skip hc _ ih =>
      obtain ⟨inner, more, hinner, hmore, rfl⟩ := ih
      exact ⟨_ :: inner, more, List.forall_mem_cons.2 ⟨hc, hinner⟩, hmore, rfl⟩

theorem isSuffixes_rank {s : List Char} (h : EndsRank s) : IsSuffixes ('[' :: s) := by
  obtain ⟨inner, more, hinner, hmore, rfl⟩ := h.exists_inner
  have hsuffix : IsSuffixes ([] ++ ('[' :: inner ++ [']']) ++ more) :=
    .cons isBlanks_nil (.rank hinner) hmore
  simpa using hsuffix

/-- A blank before suffixes belongs to them, unless there are none. -/
theorem isSuffixes_cons_blank {c : Char} {s : List Char} (hc : isBlank c = true)
    (h : IsSuffixes s) : s = [] ∨ IsSuffixes (c :: s) := by
  cases h with
  | nil => exact Or.inl rfl
  | cons hblanks hsuffix hmore =>
      exact Or.inr (IsSuffixes.cons (isBlanks_cons hc hblanks) hsuffix hmore)

/-! ## Blanks around a type -/

theorem EndsName.append {s s' : List Char} (hs : EndsName s) (hs' : EndsName s') :
    EndsName (s ++ s') := by
  cases s with
  | nil => exact hs'
  | cons c cs => simpa [EndsName] using hs

theorem EndsName.of_append {s s' : List Char} (h : EndsName (s ++ s')) : EndsName s := by
  cases s with
  | nil => simp [EndsName]
  | cons c cs => simpa [EndsName] using h

theorem IsBlanks.endsName {w : List Char} (hw : IsBlanks w) : EndsName w :=
  fun c hc => isNameChar_eq_false_of_isBlank (hw c (List.mem_of_mem_head? hc))

/-- Blanks behind a type belong to it. -/
theorem Spells.append_blanks {s w : List Char} {t : TypeRef} (h : Spells s t) (hw : IsBlanks w) :
    Spells (s ++ w) t := by
  cases h with
  | type hbefore hbase hends hgap hargs hsuffixes hafter =>
      have hends' := hends.append hw.endsName
      rw [List.append_assoc] at hends'
      have happended := Spells.type hbefore hbase hends' hgap hargs hsuffixes (hafter.append hw)
      rwa [← List.append_assoc] at happended

end ControllerCompanion.TypeRef
