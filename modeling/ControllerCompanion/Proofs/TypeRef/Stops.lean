import ControllerCompanion.Proofs.TypeRef.Reading

set_option autoImplicit false

/-! # Where reading a type reference stops

Reading a text as a type may stop at a character. It then stops at the first one that no type can
have there: the text before it, with brackets closed behind it, is a type (`exists_spells_of_stop`),
and whatever text follows that character is never looked at (`takeType_of_sameUpTo`). -/

namespace ControllerCompanion.TypeRef

open Unicode

/-! ## The text before a stop -/

/-- The text that reading has left behind it where it stops, at an unexpected character or at the
    end of the text. -/
def Stop.behind : Stop → Option (List Char)
  | .unexpected c rest => some (c :: rest)
  | .openArguments => some []
  | .missingName | .openRank => none

theorem readSuffixes_eq_error {inRank : Bool} {s : List Char} {e : Stop}
    (h : readSuffixes inRank s = .error e) : e = .openRank := by
  fun_induction readSuffixes inRank s with
  | case1 => simpa using h.symm
  | case2 => simp at h
  | case3 cs ih | case4 cs _ ih | case8 _ cs _ _ ih | case9 _ cs _ _ _ ih =>
      exact ih (map_eq_error_iff.1 h)
  | case5 _ _ _ _ _ ih | case7 _ _ _ _ _ ih => exact ih h
  | case6 => simpa using h.symm
  | case10 => simp at h

/-- Reading a type stops with an unexpected character or at the end of the text only inside the
    argument list of that type. -/
theorem exists_takeTypes_of_takeType_eq_error {s b : List Char} {e : Stop}
    (h : takeType s = .error e) (hb : e.behind = some b) :
    ∃ before base gap inner, IsBlanks before ∧ IsBase base ∧ IsBlanks gap ∧
      s = before ++ base ++ gap ++ '<' :: inner ∧ takeTypes inner = .error e := by
  rw [takeType_eq] at h
  split at h
  · cases h
    simp [Stop.behind] at hb
  next hbase =>
  obtain ⟨before, hbefore, hs⟩ := exists_eq_baseAhead_append s
  obtain ⟨gap, hgap, hbehind⟩ := exists_blanks_append_skipBlanks (behindBase s)
  rcases bind_eq_error_iff.1 h with hargs | ⟨⟨args, mid⟩, hargs, hsuffix⟩
  · unfold takeArguments at hargs
    split at hargs
    next inner hinner =>
      refine ⟨before, baseAhead s, gap, inner, hbefore,
        ⟨hbase, fun _ hc => List.mem_takeWhile_imp hc⟩, hgap, ?_, hargs⟩
      calc s = before ++ baseAhead s ++ behindBase s := hs
        _ = before ++ baseAhead s ++ gap ++ '<' :: inner := by
          rw [hbehind, hinner, ← List.append_assoc]
    next => simp at hargs
  · obtain rfl := readSuffixes_eq_error (map_eq_error_iff.1 hsuffix)
    simp [Stop.behind] at hb

/-- Takes what stands behind a type of an argument list: the bracket behind the list, or a comma and
    further types. -/
def takeBehind (t : TypeRef) : List Char → Except Stop (List TypeRef × List Char)
  | [] => .error .openArguments
  | c :: rest =>
    if c = '>' then .ok ([t], rest)
    else if c = ',' then (takeTypes rest).map fun (ts, rest) => (t :: ts, rest)
    else .error (.unexpected c rest)

theorem takeTypes_eq_takeBehind (s : List Char) :
    takeTypes s = (takeType s).bind fun (t, mid) => takeBehind t (skipBlanks mid) := by
  rw [takeTypes_eq]
  rfl

/-- Reading the types of an argument list stops with an unexpected character or at the end of the
    text in its first type, behind that type, or behind the comma that follows it. -/
theorem takeTypes_eq_error {s : List Char} {e : Stop} (h : takeTypes s = .error e) :
    takeType s = .error e ∨ ∃ first t behind, Spells first t ∧ s = first ++ behind ∧
      ((behind = [] ∧ e = .openArguments) ∨
        (∃ rest, behind = ',' :: rest ∧ takeTypes rest = .error e) ∨
        ∃ c rest, behind = c :: rest ∧ e = .unexpected c rest) := by
  rw [takeTypes_eq_takeBehind] at h
  rcases bind_eq_error_iff.1 h with h | ⟨⟨t, mid⟩, ht, h⟩
  · exact Or.inl h
  right
  obtain ⟨first, hs, hfirst⟩ := takeType_sound ht
  obtain ⟨gap, hgap, hmid⟩ := exists_blanks_append_skipBlanks mid
  refine ⟨first ++ gap, t, skipBlanks mid, hfirst.append_blanks hgap, ?_, ?_⟩
  · rw [List.append_assoc, ← hmid, hs]
  dsimp only at h
  unfold takeBehind at h
  split at h
  next hend =>
    cases h
    exact Or.inl ⟨hend, rfl⟩
  next c rest hnext =>
  split at h
  · cases h
  split at h
  next hcomma => exact Or.inr (Or.inl ⟨rest, hcomma ▸ hnext, map_eq_error_iff.1 h⟩)
  next =>
    cases h
    exact Or.inr (Or.inr ⟨c, rest, hnext, rfl⟩)

/-- Closing brackets, as many as `k`. -/
def brackets (k : Nat) : List Char := List.replicate k '>'

mutual

/-- Where reading a type stops with an unexpected character or at the end of the text, closing
    brackets make a type of the text before that. -/
theorem exists_spells_of_stop {s b : List Char} {e : Stop} (h : takeType s = .error e)
    (hb : e.behind = some b) :
    ∃ before, s = before ++ b ∧ ∃ k t, Spells (before ++ brackets (k + 1)) t := by
  obtain ⟨blanks, base, gap, inner, hblanks, hbase, hgap, rfl, hinner⟩ :=
    exists_takeTypes_of_takeType_eq_error h hb
  obtain ⟨before, rfl, k, ts, hts⟩ := exists_spellsTypes_of_stop hinner hb
  refine ⟨blanks ++ base ++ gap ++ '<' :: before, by simp, k, ?_⟩
  have hends : EndsName (gap ++ ('<' :: (before ++ brackets k) ++ ['>']) ++ [] ++ []) := by
    have hlist : EndsName ('<' :: (before ++ brackets k) ++ ['>']) := by
      intro c hc
      obtain rfl : '<' = c := by simpa using hc
      decide
    simpa using hgap.endsName.append hlist
  have hspells := Spells.type hblanks hbase hends hgap (.listed hts) .nil isBlanks_nil
  rw [brackets, List.replicate_succ', ← brackets]
  exact ⟨_, by simpa using hspells⟩
  termination_by 2 * s.length
  decreasing_by
    subst_vars
    simp
    omega

/-- Where reading the types of an argument list stops in that way, the text before that is the
    types of an argument list with closing brackets behind it. -/
theorem exists_spellsTypes_of_stop {s b : List Char} {e : Stop} (h : takeTypes s = .error e)
    (hb : e.behind = some b) :
    ∃ before, s = before ++ b ∧ ∃ k ts, SpellsTypes (before ++ brackets k) ts := by
  rcases takeTypes_eq_error h with hfirst | ⟨first, t, behind, hfirst, rfl, hbehind⟩
  · obtain ⟨before, hs, k, t, ht⟩ := exists_spells_of_stop hfirst hb
    exact ⟨before, hs, k + 1, [t], .last ht⟩
  · have hlast : SpellsTypes (first ++ brackets 0) [t] := .last (by simpa [brackets] using hfirst)
    rcases hbehind with ⟨rfl, rfl⟩ | ⟨rest, rfl, hrest⟩ | ⟨c, rest, rfl, rfl⟩
    · obtain rfl : [] = b := by simpa [Stop.behind] using hb
      exact ⟨first, rfl, 0, [t], hlast⟩
    · -- the stop is behind the comma
      obtain ⟨before, rfl, k, ts, hts⟩ := exists_spellsTypes_of_stop hrest hb
      refine ⟨first ++ ',' :: before, by simp, k, t :: ts, ?_⟩
      simpa using SpellsTypes.more hfirst hts
    · obtain rfl : c :: rest = b := by simpa [Stop.behind] using hb
      exact ⟨first, rfl, 0, [t], hlast⟩
  termination_by 2 * s.length + 1

end

/-! ## The text behind a stop -/

/-- Outcomes of reading two texts that differ in what follows `c`: both have been read up to `c` or
    less far, with the same result, or reading has stopped at `c` in both. -/
inductive SameUpTo {α : Type} (c : Char) (rest more : List Char) :
    Except Stop (α × List Char) → Except Stop (α × List Char) → Prop where
  | read (a : α) (y : List Char) :
      SameUpTo c rest more (.ok (a, y ++ c :: rest)) (.ok (a, y ++ c :: more))
  | stopped : SameUpTo c rest more (.error (.unexpected c rest)) (.error (.unexpected c more))

section

variable {α β : Type} {s y rest more : List Char} {c : Char}

theorem SameUpTo.of_map {x : Except Stop (α × List Char)} {f : α → β}
    {o : Except Stop (β × List Char)}
    (h : SameUpTo c rest more (x.map fun (a, s) => (f a, s)) o) :
    ∃ o', SameUpTo c rest more x o' ∧ (o'.map fun (a, s) => (f a, s)) = o := by
  rcases x with e | ⟨a, s⟩
  · cases h
    exact ⟨_, .stopped, rfl⟩
  · cases h
    exact ⟨_, .read a _, rfl⟩

/-- Where the step behind a result does not look past `c`, the outcome of both steps is made from
    such an outcome of the first one. -/
theorem SameUpTo.of_bind {x : Except Stop (α × List Char)}
    {next : α × List Char → Except Stop (β × List Char)} {o : Except Stop (β × List Char)}
    (h : SameUpTo c rest more (x.bind next) o)
    (hnext : ∀ a mid, x = .ok (a, mid) → SameUpTo c rest more (next (a, mid)) o →
      ∃ y, mid = y ++ c :: rest ∧ next (a, y ++ c :: more) = o) :
    ∃ o', SameUpTo c rest more x o' ∧ o'.bind next = o := by
  rcases x with e | ⟨a, mid⟩
  · cases h
    exact ⟨_, .stopped, rfl⟩
  · obtain ⟨y, rfl, hy⟩ := hnext a mid rfl h
    exact ⟨_, .read a y, hy⟩

theorem exists_cons_of_cons_eq (more : List Char) {d : Char} {ds : List Char}
    (h : d :: ds = y ++ c :: rest) : ∃ ds', y ++ c :: more = d :: ds' := by
  cases y with
  | nil =>
      obtain ⟨rfl, -⟩ := List.cons.inj h
      exact ⟨more, rfl⟩
  | cons d' y =>
      obtain ⟨rfl, -⟩ := List.cons.inj h
      exact ⟨y ++ c :: more, rfl⟩

/-- What is dropped off the front of a text, up to `c` or less far, is dropped whatever follows
    `c`. -/
theorem dropWhile_append_cons (more : List Char) {p : Char → Bool}
    (h : s.dropWhile p = y ++ c :: rest) :
    ∃ x, s = x ++ c :: rest ∧ (x ++ c :: more).dropWhile p = y ++ c :: more ∧
      (x ++ c :: more).takeWhile p = s.takeWhile p := by
  induction s with
  | nil => simp at h
  | cons d ds ih =>
      by_cases hd : p d = true
      · rw [List.dropWhile_cons_of_pos hd] at h
        obtain ⟨x, rfl, hdrop, htake⟩ := ih h
        exact ⟨d :: x, rfl, by simpa [hd] using hdrop, by simp [hd, htake]⟩
      · rw [List.dropWhile_cons_of_neg hd] at h
        obtain ⟨ds', hds'⟩ := exists_cons_of_cons_eq more h
        refine ⟨y, h, ?_, ?_⟩
        · rw [hds', List.dropWhile_cons_of_neg hd]
        · rw [hds', List.takeWhile_cons_of_neg hd, List.takeWhile_cons_of_neg hd]

/-- The next character alone decides how reading suffixes goes on: it is read, or reading ends
    before it, or fails. -/
theorem readSuffixes_cons_cases (inRank : Bool) (d : Char) :
    (∃ inRank' front, ∀ ds, readSuffixes inRank (d :: ds) =
        (readSuffixes inRank' ds).map fun (suffix, rest) => (front ++ suffix, rest)) ∨
      (∀ ds, readSuffixes inRank (d :: ds) = .ok ([], d :: ds)) ∨
      ∀ ds, readSuffixes inRank (d :: ds) = .error .openRank := by
  have hskip : ∀ (inRank' : Bool) (ds : List Char), readSuffixes inRank' ds =
      (readSuffixes inRank' ds).map fun (suffix, rest) => ([] ++ suffix, rest) := by
    intro inRank' ds
    cases readSuffixes inRank' ds <;> rfl
  cases inRank with
  | true =>
      by_cases hclose : d = ']'
      · exact Or.inl ⟨false, [']'], fun ds => by simp [readSuffixes, hclose]⟩
      by_cases hcomma : d = ','
      · exact Or.inl ⟨true, [','], fun ds => by simp [readSuffixes, hcomma]⟩
      by_cases hblank : isBlank d = true
      · refine Or.inl ⟨true, [], fun ds => ?_⟩
        rw [← hskip]
        simp [readSuffixes, hclose, hcomma, hblank]
      · exact Or.inr (Or.inr fun ds => by simp [readSuffixes, hclose, hcomma, hblank])
  | false =>
      by_cases hblank : isBlank d = true
      · refine Or.inl ⟨false, [], fun ds => ?_⟩
        rw [← hskip]
        simp [readSuffixes, hblank]
      by_cases hnullable : d = '?'
      · exact Or.inl ⟨false, ['?'], fun ds => by simp [readSuffixes, hnullable]⟩
      by_cases hopen : d = '['
      · exact Or.inl ⟨true, ['['], fun ds => by simp [readSuffixes, hopen]⟩
      · exact Or.inr (Or.inl fun ds => by simp [readSuffixes, hblank, hnullable, hopen])

theorem readSuffixes_of_sameUpTo {inRank : Bool} {o : Except Stop (List Char × List Char)}
    (h : SameUpTo c rest more (readSuffixes inRank s) o) :
    ∃ x, s = x ++ c :: rest ∧ readSuffixes inRank (x ++ c :: more) = o := by
  induction s generalizing inRank o with
  | nil =>
      generalize hread : readSuffixes inRank [] = outcome at h
      cases inRank <;> cases h <;> simp [readSuffixes] at hread
  | cons d ds ih =>
      rcases readSuffixes_cons_cases inRank d with ⟨inRank', front, hstep⟩ | hend | hfail
      · rw [hstep] at h
        obtain ⟨o', h', rfl⟩ := h.of_map
        obtain ⟨x, rfl, hx⟩ := ih h'
        exact ⟨d :: x, rfl, by rw [List.cons_append, hstep, hx]⟩
      · generalize hread : readSuffixes inRank (d :: ds) = outcome at h
        rw [hend] at hread
        cases h with
        | read a y =>
            simp only [Except.ok.injEq, Prod.mk.injEq] at hread
            obtain ⟨rfl, hread⟩ := hread
            obtain ⟨ds', hds'⟩ := exists_cons_of_cons_eq more hread
            exact ⟨y, hread, by rw [hds', hend]⟩
        | stopped => simp at hread
      · rw [hfail] at h
        cases h

mutual

/-- **Reading a type does not look past the character that it gets to.** A text that is read up to
    `c`, or up to a stop at `c`, is read in the same way whatever follows `c`. -/
theorem takeType_of_sameUpTo {s : List Char} {o : Except Stop (TypeRef × List Char)}
    (h : SameUpTo c rest more (takeType s) o) :
    ∃ x, s = x ++ c :: rest ∧ takeType (x ++ c :: more) = o := by
  rw [takeType_eq] at h
  split at h
  · cases h
  next hbase =>
  obtain ⟨o', hargs, rfl⟩ := h.of_bind fun args mid _ hsuffix => by
    obtain ⟨o'', hread, rfl⟩ := SameUpTo.of_map
      (f := fun suffix => TypeRef.mk (String.ofList (baseAhead s ++ suffix)) args) hsuffix
    obtain ⟨y, rfl, hy⟩ := readSuffixes_of_sameUpTo hread
    exact ⟨y, rfl, by dsimp only; rw [hy]⟩
  have hshorter : (skipBlanks (behindBase s)).length < s.length := length_ahead_lt hbase
  obtain ⟨ahead, hahead, hsame⟩ := takeArguments_of_sameUpTo hargs
  obtain ⟨behind, hbehind, hskip, -⟩ := dropWhile_append_cons more hahead
  obtain ⟨named, hnamed, hdrop, htake⟩ := dropWhile_append_cons more hbehind
  obtain ⟨x, rfl, hblanks, -⟩ := dropWhile_append_cons more hnamed
  have hbase' : baseAhead (x ++ c :: more) = baseAhead (x ++ c :: rest) := by
    rw [baseAhead, skipBlanks, hblanks, htake]
    rfl
  have hahead' : skipBlanks (behindBase (x ++ c :: more)) = ahead ++ c :: more := by
    rw [behindBase, skipBlanks, skipBlanks, hblanks, hdrop, hskip]
  refine ⟨x, rfl, ?_⟩
  rw [takeType_eq, hbase', hahead', hsame, if_neg hbase]
  termination_by 2 * s.length

theorem takeArguments_of_sameUpTo {s : List Char} {o : Except Stop (List TypeRef × List Char)}
    (h : SameUpTo c rest more (takeArguments s) o) :
    ∃ x, s = x ++ c :: rest ∧ takeArguments (x ++ c :: more) = o := by
  by_cases hhead : s.head? = some '<'
  · obtain ⟨inner, rfl⟩ := List.head?_eq_some_iff.1 hhead
    obtain ⟨x, rfl, hx⟩ := takeTypes_of_sameUpTo (s := inner) h
    exact ⟨'<' :: x, rfl, hx⟩
  · generalize htake : takeArguments s = outcome at h
    rw [takeArguments_plain hhead] at htake
    cases h with
    | stopped => cases htake
    | read args y =>
        simp only [Except.ok.injEq, Prod.mk.injEq] at htake
        obtain ⟨rfl, rfl⟩ := htake
        refine ⟨y, rfl, takeArguments_plain ?_⟩
        cases y <;> simpa using hhead
  termination_by 2 * s.length + 1

theorem takeTypes_of_sameUpTo {s : List Char} {o : Except Stop (List TypeRef × List Char)}
    (h : SameUpTo c rest more (takeTypes s) o) :
    ∃ x, s = x ++ c :: rest ∧ takeTypes (x ++ c :: more) = o := by
  rw [takeTypes_eq_takeBehind] at h
  obtain ⟨o', hfirst, rfl⟩ := h.of_bind fun t mid hread hbehind => by
    have hshorter : (skipBlanks mid).length ≤ s.length := by
      obtain ⟨used, rfl, -⟩ := takeType_sound hread
      have hlength := length_skipBlanks_le mid
      simp only [List.length_append]
      omega
    obtain ⟨z, hz, hsame⟩ := takeBehind_of_sameUpTo hbehind
    obtain ⟨y, rfl, hskip, -⟩ := dropWhile_append_cons more hz
    exact ⟨y, rfl, by dsimp only [skipBlanks]; rw [hskip, hsame]⟩
  obtain ⟨x, rfl, hx⟩ := takeType_of_sameUpTo hfirst
  exact ⟨x, rfl, by rw [takeTypes_eq_takeBehind, hx]⟩
  termination_by 2 * s.length + 1

theorem takeBehind_of_sameUpTo {t : TypeRef} {s : List Char}
    {o : Except Stop (List TypeRef × List Char)}
    (h : SameUpTo c rest more (takeBehind t s) o) :
    ∃ x, s = x ++ c :: rest ∧ takeBehind t (x ++ c :: more) = o := by
  match s with
  | [] => cases h
  | d :: behind =>
      rw [takeBehind] at h
      by_cases hclose : d = '>'
      · rw [if_pos hclose] at h
        cases h
        next y => exact ⟨'>' :: y, by rw [hclose]; rfl, by simp [takeBehind]⟩
      by_cases hcomma : d = ','
      · rw [if_neg hclose, if_pos hcomma] at h
        obtain ⟨o', hrest, rfl⟩ := h.of_map
        obtain ⟨y, rfl, hy⟩ := takeTypes_of_sameUpTo hrest
        exact ⟨',' :: y, by rw [hcomma]; rfl, by simp [takeBehind, hy]⟩
      · rw [if_neg hclose, if_neg hcomma] at h
        cases h
        exact ⟨[], rfl, by simp [takeBehind, hclose, hcomma]⟩
  termination_by 2 * s.length

end

end

/-! ## Whole texts -/

/-- Reading the text as a whole comes to the character `c` and does not get past it. -/
def StopsAt (c : Char) (rest s : List Char) : Prop :=
  takeType s = .error (.unexpected c rest) ∨ ∃ t, takeType s = .ok (t, c :: rest)

/-- The text before such a character is a type with some closing brackets behind it, and reading
    comes to that character whatever follows it. -/
theorem StopsAt.exists_before {c : Char} {rest s : List Char} (h : StopsAt c rest s) :
    ∃ before, s = before ++ c :: rest ∧ (∃ k t, Spells (before ++ brackets k) t) ∧
      ∀ more, StopsAt c more (before ++ c :: more) := by
  rcases h with h | ⟨t, h⟩
  · obtain ⟨before, rfl, k, t, ht⟩ := exists_spells_of_stop h rfl
    refine ⟨before, rfl, ⟨k + 1, t, ht⟩, fun more => Or.inl ?_⟩
    have hstop : SameUpTo c rest more (takeType (before ++ c :: rest))
        (.error (.unexpected c more)) := by
      rw [h]
      exact .stopped
    obtain ⟨x, hx, hsame⟩ := takeType_of_sameUpTo hstop
    rwa [List.append_cancel_right hx]
  · obtain ⟨before, rfl, ht⟩ := takeType_sound h
    refine ⟨before, rfl, ⟨0, t, by simpa [brackets] using ht⟩, fun more => Or.inr ⟨t, ?_⟩⟩
    have hread : SameUpTo c rest more (takeType (before ++ c :: rest)) (.ok (t, c :: more)) := by
      rw [h]
      exact .read t []
    obtain ⟨x, hx, hsame⟩ := takeType_of_sameUpTo hread
    rwa [List.append_cancel_right hx]

/-- The bytes of the characters, added to a number. -/
theorem foldl_utf8Size (s : List Char) (n : Nat) :
    s.foldl (fun n c => n + c.utf8Size) n = n + (String.ofList s).utf8ByteSize := by
  induction s generalizing n with
  | nil => simp
  | cons c cs ih =>
      have hcons : String.ofList (c :: cs) = String.singleton c ++ String.ofList cs := by
        rw [← String.toList_inj]
        simp
      rw [List.foldl_cons, ih, hcons, String.utf8ByteSize_append, String.utf8ByteSize_singleton,
        Nat.add_assoc]

theorem byteCount_eq_utf8ByteSize (s : List Char) :
    byteCount s = (String.ofList s).utf8ByteSize := by
  rw [byteCount, foldl_utf8Size, Nat.zero_add]

theorem reason_unexpected (before rest : List Char) (c : Char) :
    (Stop.unexpected c rest).reason (before ++ c :: rest) =
      .unexpected c (String.ofList before).utf8ByteSize := by
  rw [Stop.reason, byteCount_eq_utf8ByteSize, byteCount_eq_utf8ByteSize, String.ofList_append,
    String.utf8ByteSize_append, Nat.add_sub_cancel]

/-- The outcome for a text in which reading comes to a character and does not get past it. -/
theorem parse_of_stopsAt {text : String} {c : Char} {before rest : List Char}
    (htext : text.toList = before ++ c :: rest) (h : StopsAt c rest text.toList) :
    parse text = .error ⟨text, .unexpected c (String.ofList before).utf8ByteSize⟩ := by
  unfold parse
  unfold StopsAt takeType at h
  rw [← reason_unexpected before rest c, ← htext]
  cases hread : readType text.toList with
  | error stop =>
      obtain rfl : stop = .unexpected c rest := by simpa [hread, Except.map] using h
      rfl
  | ok taken =>
      obtain ⟨t, ht⟩ : ∃ t, Taken.bare taken = (t, c :: rest) := by
        simpa [hread, Except.map] using h
      obtain ⟨-, hrest⟩ := Prod.mk.inj ht
      dsimp only
      rw [hrest]

/-- A text that is no type: reading it stops short of its end. -/
theorem exists_stop_of_parse {text : String} {e : Invalid} (h : parse text = .error e) :
    ∃ stop : Stop, e.reason = stop.reason text.toList ∧
      (takeType text.toList = .error stop ∨
        ∃ c rest, stop = .unexpected c rest ∧ StopsAt c rest text.toList) := by
  unfold parse at h
  unfold StopsAt takeType
  cases hread : readType text.toList with
  | error stop =>
      rw [hread] at h
      cases h
      exact ⟨stop, rfl, Or.inl rfl⟩
  | ok taken =>
      rw [hread] at h
      dsimp only at h
      split at h
      · cases h
      next c rest hrest =>
      cases h
      refine ⟨.unexpected c rest, rfl, Or.inr ⟨c, rest, rfl, Or.inr ⟨taken.value, ?_⟩⟩⟩
      simp [Except.map, Taken.bare, hrest]

/-- The text with `k` closing brackets behind it. -/
def bracketed (text : String) (k : Nat) : String := text ++ String.ofList (brackets k)

theorem parse_bracketed {before : List Char} {k : Nat} {t : TypeRef}
    (h : Spells (before ++ brackets k) t) : parse (bracketed (String.ofList before) k) = .ok t := by
  refine parse_of_spells ?_
  rw [bracketed, ← String.ofList_append, String.toList_ofList]
  exact h

/-- **A text that is no type is given up at the first character that no type can have there.**
    The error names that character and the byte it begins at. The text before it is a type with
    some closing brackets behind it, and every text that goes on with it fails with the same error.
    A text that ends inside an argument list is a type with some closing brackets behind it. -/
theorem parse_gives_up_where_impossible {text : String} {e : Invalid}
    (h : parse text = .error e) :
    (∀ c offset, e.reason = .unexpected c offset → ∃ before behind : String,
      text = before ++ String.singleton c ++ behind ∧ before.utf8ByteSize = offset ∧
        (∃ k t, parse (bracketed before k) = .ok t) ∧
        ∀ more, parse (before ++ String.singleton c ++ more) =
          .error ⟨before ++ String.singleton c ++ more, .unexpected c offset⟩) ∧
      (e.reason = .openArguments → ∃ k t, 0 < k ∧ parse (bracketed text k) = .ok t) := by
  obtain ⟨stop, he, hstop⟩ := exists_stop_of_parse h
  refine ⟨fun c offset hreason => ?_, fun hreason => ?_⟩
  · obtain ⟨rest, rfl⟩ : ∃ rest, stop = .unexpected c rest := by
      cases stop <;> simp_all [Stop.reason]
    have hat : StopsAt c rest text.toList := by
      rcases hstop with hstop | ⟨_, _, hsame, hat⟩
      · exact Or.inl hstop
      · cases hsame
        exact hat
    obtain ⟨before, htext, ⟨k, t, ht⟩, hmore⟩ := hat.exists_before
    rw [htext, reason_unexpected, hreason] at he
    cases he
    refine ⟨String.ofList before, String.ofList rest, ?_, rfl,
      ⟨k, t, parse_bracketed ht⟩, fun more => ?_⟩
    · rw [← String.toList_inj, htext]
      simp
    · have hwhole : (String.ofList before ++ String.singleton c ++ more).toList =
          before ++ c :: more.toList := by simp
      exact parse_of_stopsAt hwhole (hwhole ▸ hmore more.toList)
  · obtain rfl : stop = .openArguments := by
      cases stop <;> simp_all [Stop.reason]
    rcases hstop with hstop | ⟨_, _, hsame, -⟩
    · obtain ⟨before, htext, k, t, ht⟩ := exists_spells_of_stop hstop rfl
      obtain rfl : text = String.ofList before := by
        rw [← String.ofList_toList (s := text), htext, List.append_nil]
      exact ⟨k + 1, t, Nat.succ_pos k, parse_bracketed ht⟩
    · cases hsame

/-- Bytes are counted, not characters, and an argument list may end anywhere. -/
theorem parse_gives_up_in_argument_lists :
    parse "Map<é, A B>" = .error ⟨"Map<é, A B>", .unexpected 'B' 10⟩ ∧
      (∃ before behind : String, "Map<é, A B>" = before ++ String.singleton 'B' ++ behind ∧
        before.utf8ByteSize = 10 ∧ (∃ k t, parse (bracketed before k) = .ok t) ∧
        ∀ more, parse (before ++ String.singleton 'B' ++ more) =
          .error ⟨before ++ String.singleton 'B' ++ more, .unexpected 'B' 10⟩) ∧
      parse "Map<é, List<A" = .error ⟨"Map<é, List<A", .openArguments⟩ ∧
      ∃ k t, 0 < k ∧ parse (bracketed "Map<é, List<A" k) = .ok t := by
  have hsecond : parse "Map<é, A B>" = .error ⟨"Map<é, A B>", .unexpected 'B' 10⟩ := by
    decide +kernel
  have hopen : parse "Map<é, List<A" = .error ⟨"Map<é, List<A", .openArguments⟩ := by
    decide +kernel
  exact ⟨hsecond, (parse_gives_up_where_impossible hsecond).1 'B' 10 rfl, hopen,
    (parse_gives_up_where_impossible hopen).2 rfl⟩

end ControllerCompanion.TypeRef
