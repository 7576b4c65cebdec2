import ControllerCompanion.Proofs.Outcome
import ControllerCompanion.Proofs.TypeRef.Grammar

set_option autoImplicit false

/-! # Reading type references by the grammar

A text is read as a type exactly if the grammar derives it as that type. Reading is followed by
what it takes off the front of a text: what it takes off is derived by the rules
(`takeType_sound`), and a derived text is taken off as a whole before anything that closes a type
(`takeType_complete`). -/

namespace ControllerCompanion.TypeRef

open Unicode

/-! ## Suffixes -/

/-- The suffixes that reading takes off a text are suffixes by the rules, and so is what it takes
    off behind an opened bracket. -/
theorem readSuffixes_sound {inRank : Bool} {s suffix rest : List Char}
    (h : readSuffixes inRank s = .ok (suffix, rest)) :
    ∃ used after, s = used ++ after ++ rest ∧ (if inRank then EndsRank used else IsSuffixes used) ∧
      IsBlanks after ∧ suffix = withoutBlanks used := by
  fun_induction readSuffixes inRank s generalizing suffix rest with
  | case1 => simp at h
  | case2 inRank hout =>
      simp only [Except.ok.injEq, Prod.mk.injEq] at h
      obtain ⟨rfl, rfl⟩ := h
      exact ⟨[], [], rfl, by simpa [hout] using .nil, isBlanks_nil, rfl⟩
  | case3 cs ih =>
      -- the bracket closes
      simp only [map_eq_ok_iff, Prod.exists, Prod.mk.injEq] at h
      obtain ⟨suffix', _, hread, rfl, rfl⟩ := h
      obtain ⟨used, after, rfl, hused, hafter, rfl⟩ := ih hread
      exact ⟨']' :: used, after, by simp, .close (by simpa using hused), hafter,
        (withoutBlanks_cons (by simp)).symm⟩
  | case4 cs _ ih =>
      simp only [map_eq_ok_iff, Prod.exists, Prod.mk.injEq] at h
      obtain ⟨suffix', _, hread, rfl, rfl⟩ := h
      obtain ⟨used, after, rfl, hused, hafter, rfl⟩ := ih hread
      exact ⟨',' :: used, after, by simp, .skip (Or.inl rfl) (by simpa using hused), hafter,
        (withoutBlanks_cons (by simp)).symm⟩
  | case5 c cs _ _ hc ih =>
      obtain ⟨used, after, rfl, hused, hafter, rfl⟩ := ih h
      exact ⟨c :: used, after, by simp, .skip (Or.inr hc) (by simpa using hused), hafter,
        (withoutBlanks_cons_of_isBlank hc).symm⟩
  | case6 => simp at h
  | case7 inRank c cs hout hc ih =>
      obtain ⟨used, after, rfl, hused, hafter, rfl⟩ := ih h
      simp only [hout, Bool.false_eq_true, if_false] at hused ⊢
      rcases isSuffixes_cons_blank hc hused with rfl | hcons
      · exact ⟨[], c :: after, rfl, .nil, isBlanks_cons hc hafter, rfl⟩
      · exact ⟨c :: used, after, rfl, hcons, hafter, (withoutBlanks_cons_of_isBlank hc).symm⟩
  | case8 inRank cs hout _ ih =>
      simp only [map_eq_ok_iff, Prod.exists, Prod.mk.injEq] at h
      obtain ⟨suffix', _, hread, rfl, rfl⟩ := h
      obtain ⟨used, after, rfl, hused, hafter, rfl⟩ := ih hread
      simp only [hout, Bool.false_eq_true, if_false] at hused ⊢
      exact ⟨'?' :: used, after, rfl, isSuffixes_nullable hused, hafter,
        (withoutBlanks_cons (by simp)).symm⟩
  | case9 inRank cs hout _ _ ih =>
      simp only [map_eq_ok_iff, Prod.exists, Prod.mk.injEq] at h
      obtain ⟨suffix', _, hread, rfl, rfl⟩ := h
      obtain ⟨used, after, rfl, hused, hafter, rfl⟩ := ih hread
      simp only [hout, Bool.false_eq_true, if_false, if_true] at hused ⊢
      exact ⟨'[' :: used, after, rfl, isSuffixes_rank hused, hafter,
        (withoutBlanks_cons (by simp)).symm⟩
  | case10 inRank c cs hout _ _ _ =>
      simp only [Except.ok.injEq, Prod.mk.injEq] at h
      obtain ⟨rfl, rfl⟩ := h
      exact ⟨[], [], rfl, by simpa [hout] using .nil, isBlanks_nil, rfl⟩

/-- A text that closes what stands before it: it is empty, or it begins with a comma or with the
    bracket behind a list. -/
def Closes (rest : List Char) : Prop := ∀ c ∈ rest.head?, c = ',' ∨ c = '>'

theorem readSuffixes_of_closes {rest : List Char} (h : Closes rest) :
    readSuffixes false rest = .ok ([], rest) := by
  cases rest with
  | nil => simp [readSuffixes]
  | cons c cs =>
      rcases h c (by simp) with rfl | rfl
      · simp [readSuffixes]
      · simp [readSuffixes]

theorem readSuffixes_blanks {w s : List Char} (hw : IsBlanks w) :
    readSuffixes false (w ++ s) = readSuffixes false s := by
  induction w with
  | nil => rfl
  | cons c cs ih =>
      rw [List.cons_append, readSuffixes]
      simp [hw c (by simp), ih fun d hd => hw d (by simp [hd])]

theorem readSuffixes_skipBlanks (s : List Char) :
    readSuffixes false (skipBlanks s) = readSuffixes false s := by
  obtain ⟨w, hw, hs⟩ := exists_blanks_append_skipBlanks s
  calc readSuffixes false (skipBlanks s)
      = readSuffixes false (w ++ skipBlanks s) := (readSuffixes_blanks hw).symm
    _ = readSuffixes false s := by rw [← hs]

theorem readSuffixes_rank {inner s suffix rest : List Char}
    (hinner : ∀ c ∈ inner, c = ',' ∨ isBlank c = true)
    (h : readSuffixes false s = .ok (suffix, rest)) :
    readSuffixes true (inner ++ ']' :: s) = .ok (withoutBlanks inner ++ ']' :: suffix, rest) := by
  induction inner with
  | nil => simp [readSuffixes, h, Except.map, withoutBlanks]
  | cons c cs ih =>
      have ih := ih fun d hd => hinner d (by simp [hd])
      rw [List.cons_append, readSuffixes]
      rcases hinner c (by simp) with rfl | hc
      · simp [ih, Except.map, withoutBlanks_cons]
      · have hclose : c ≠ ']' := by rintro rfl; simp at hc
        have hcomma : c ≠ ',' := by rintro rfl; simp at hc
        simp [hclose, hcomma, hc, ih, withoutBlanks_cons_of_isBlank]

/-- Suffixes and the blanks behind them are read as a whole before anything that closes a type. -/
theorem readSuffixes_complete {suffixes after rest : List Char} (hs : IsSuffixes suffixes)
    (hafter : IsBlanks after) (hrest : Closes rest) :
    readSuffixes false (suffixes ++ after ++ rest) = .ok (withoutBlanks suffixes, rest) := by
  induction hs with
  | nil =>
      rw [List.nil_append, readSuffixes_blanks hafter, readSuffixes_of_closes hrest]
      rfl
  | @cons blanks suffix more hblanks hsuffix _ ih =>
      rw [List.append_assoc] at ih
      simp only [List.append_assoc, readSuffixes_blanks hblanks, withoutBlanks_append,
        withoutBlanks_eq_nil hblanks, List.nil_append]
      cases hsuffix with
      | nullable =>
          simp [readSuffixes, ih, Except.map, withoutBlanks]
      | rank hinner =>
          have hrank := readSuffixes_rank hinner ih
          simp [readSuffixes, hrank, Except.map, withoutBlanks]

/-! ## What is taken off a text -/

/-- What has been read and the text behind it, without the proof that reading moves on. -/
def Taken.bare {α : Type} {s : List Char} (x : Taken α s) : α × List Char := (x.value, x.rest)

/-- Takes a type off a text. -/
def takeType (s : List Char) : Except Stop (TypeRef × List Char) := (readType s).map Taken.bare

/-- Takes the types of an argument list off a text, and the bracket behind them. -/
def takeTypes (s : List Char) : Except Stop (List TypeRef × List Char) :=
  (readArguments s).map Taken.bare

/-- Takes an argument list off a text that begins with one. -/
def takeArguments : List Char → Except Stop (List TypeRef × List Char)
  | '<' :: inner => takeTypes inner
  | plain => .ok ([], plain)

/-- The base name that a text begins with. -/
def baseAhead (s : List Char) : List Char := (skipBlanks s).takeWhile isNameChar

/-- The text behind that name. -/
def behindBase (s : List Char) : List Char := (skipBlanks s).dropWhile isNameChar

theorem takeArguments_plain {s : List Char} (h : s.head? ≠ some '<') :
    takeArguments s = .ok ([], s) := by
  unfold takeArguments
  split
  next => simp at h
  next => rfl

theorem takeType_eq (s : List Char) :
    takeType s =
      if baseAhead s = [] then .error .missingName
      else (takeArguments (skipBlanks (behindBase s))).bind fun (args, mid) =>
        (readSuffixes false mid).map fun (suffix, rest) =>
          (⟨String.ofList (baseAhead s ++ suffix), args⟩, rest) := by
  unfold takeType baseAhead behindBase
  rw [readType]
  split
  · rfl
  next hb =>
  dsimp only
  split
  next inner hahead =>
    have hargs : takeArguments (skipBlanks ((skipBlanks s).dropWhile isNameChar))
        = takeTypes inner := by
      rw [hahead]
      rfl
    rw [hargs, takeTypes]
    cases readArguments inner with
    | error e => rfl
    | ok args =>
        dsimp only [Except.bind]
        split
        next e hr => simp [Except.map, Taken.bare, hr]
        next suffix rest hr => simp [Except.map, Taken.bare, hr]
  next hahead =>
    have hhead : (skipBlanks ((skipBlanks s).dropWhile isNameChar)).head? ≠ some '<' := by
      intro hhead
      obtain ⟨inner, hinner⟩ := List.head?_eq_some_iff.1 hhead
      exact hahead inner hinner
    rw [takeArguments_plain hhead]
    dsimp only [Except.bind]
    split
    next e hr => simp [Except.map, hr]
    next suffix rest hr => simp [Except.map, Taken.bare, hr]

theorem takeTypes_eq (s : List Char) :
    takeTypes s = (takeType s).bind fun (t, mid) =>
      match skipBlanks mid with
      | [] => .error .openArguments
      | c :: rest =>
        if c = '>' then .ok ([t], rest)
        else if c = ',' then (takeTypes rest).map fun (ts, rest) => (t :: ts, rest)
        else .error (.unexpected c rest) := by
  unfold takeTypes takeType
  rw [readArguments]
  cases readType s with
  | error e => rfl
  | ok t =>
      dsimp only [Except.bind]
      split
      next hnil => simp [Except.map, Taken.bare, hnil]
      next c rest hcons =>
        by_cases hclose : c = '>'
        · simp [Except.map, Taken.bare, hcons, hclose]
        · by_cases hmore : c = ','
          · subst hmore
            cases hrest : readArguments rest <;> simp [Except.map, Taken.bare, hcons, hrest]
          · simp [Except.map, Taken.bare, hcons, hclose, hmore]

/-! ## Soundness -/

/-- A text begins with blanks, the base name, and what stands behind it. -/
theorem exists_eq_baseAhead_append (s : List Char) :
    ∃ before, IsBlanks before ∧ s = before ++ baseAhead s ++ behindBase s := by
  obtain ⟨before, hbefore, hs⟩ := exists_blanks_append_skipBlanks s
  refine ⟨before, hbefore, ?_⟩
  rw [List.append_assoc, baseAhead, behindBase, List.takeWhile_append_dropWhile, ← hs]

theorem endsName_behindBase (s : List Char) : EndsName (behindBase s) := by
  intro c hc
  have hhead := List.head?_dropWhile_not isNameChar (skipBlanks s)
  rw [← behindBase, Option.mem_def.1 hc] at hhead
  simpa using hhead

mutual

/-- A type taken off a text is derived by the rules. -/
theorem takeType_sound {s rest : List Char} {t : TypeRef} (h : takeType s = .ok (t, rest)) :
    ∃ used, s = used ++ rest ∧ Spells used t := by
  rw [takeType_eq] at h
  split at h
  · simp at h
  next hbase =>
  simp only [bind_eq_ok_iff, map_eq_ok_iff, Prod.exists, Prod.mk.injEq] at h
  obtain ⟨args, mid, hargs, suffix, rest, hsuffix, rfl, rfl⟩ := h
  obtain ⟨before, hbefore, hs⟩ := exists_eq_baseAhead_append s
  obtain ⟨gap, hgap, hbehind⟩ := exists_blanks_append_skipBlanks (behindBase s)
  obtain ⟨list, hlist, hspells⟩ :
      ∃ list, skipBlanks (behindBase s) = list ++ mid ∧ SpellsArguments list args := by
    unfold takeArguments at hargs
    split at hargs
    next inner hinner =>
      have hshorter : inner.length < s.length := by
        have hlength := congrArg List.length (hs.trans (by rw [hbehind, hinner]))
        simp at hlength
        omega
      obtain ⟨used, rfl, hused⟩ := takeTypes_sound hargs
      exact ⟨'<' :: used ++ ['>'], by simp [hinner], .listed hused⟩
    next =>
      simp only [Except.ok.injEq, Prod.mk.injEq] at hargs
      obtain ⟨rfl, rfl⟩ := hargs
      exact ⟨[], rfl, .absent⟩
  obtain ⟨suffixes, after, rfl, hsuffixes, hafter, rfl⟩ := readSuffixes_sound hsuffix
  rw [hlist] at hbehind
  have hends : EndsName (gap ++ list ++ suffixes ++ after) := by
    have hname := endsName_behindBase s
    rw [hbehind] at hname
    exact EndsName.of_append (by simpa using hname)
  refine ⟨before ++ baseAhead s ++ gap ++ list ++ suffixes ++ after, ?_,
    .type hbefore ⟨hbase, fun _ hc => List.mem_takeWhile_imp hc⟩ hends hgap hspells hsuffixes
      hafter⟩
  calc s = before ++ baseAhead s ++ behindBase s := hs
    _ = before ++ baseAhead s ++ gap ++ list ++ suffixes ++ after ++ rest := by
      simp only [hbehind, List.append_assoc]
  termination_by 2 * s.length

/-- Types taken off a text, up to the bracket behind them, are derived by the rules. -/
theorem takeTypes_sound {s rest : List Char} {ts : List TypeRef}
    (h : takeTypes s = .ok (ts, rest)) :
    ∃ used, s = used ++ '>' :: rest ∧ SpellsTypes used ts := by
  rw [takeTypes_eq, bind_eq_ok_iff] at h
  obtain ⟨⟨t, mid⟩, ht, h⟩ := h
  obtain ⟨first, hs, hfirst⟩ := takeType_sound ht
  obtain ⟨gap, hgap, hmid⟩ := exists_blanks_append_skipBlanks mid
  have hspells := hfirst.append_blanks hgap
  dsimp only at h
  split at h
  · simp at h
  next c behind hbehind =>
  rw [hmid, hbehind, ← List.append_assoc] at hs
  split at h
  next hclose =>
    simp only [Except.ok.injEq, Prod.mk.injEq] at h
    obtain ⟨rfl, rfl⟩ := h
    exact ⟨first ++ gap, hclose ▸ hs, .last hspells⟩
  next =>
  split at h
  next hcomma =>
    simp only [map_eq_ok_iff, Prod.exists, Prod.mk.injEq] at h
    obtain ⟨ts', _, hts', rfl, rfl⟩ := h
    have hshorter : behind.length < s.length := by
      have hlength := congrArg List.length hs
      simp at hlength
      omega
    obtain ⟨more, rfl, hmore⟩ := takeTypes_sound hts'
    exact ⟨first ++ gap ++ ',' :: more, by simp [hs, hcomma], .more hspells hmore⟩
  next => simp at h
  termination_by 2 * s.length + 1

end


/-! ## Completeness -/

theorem Closes.endsName {rest : List Char} (h : Closes rest) : EndsName rest := by
  intro c hc
  rcases h c hc with rfl | rfl
  · decide
  · decide

theorem Closes.skipBlanks {rest : List Char} (h : Closes rest) : skipBlanks rest = rest := by
  refine skipBlanks_eq_self fun c hc => ?_
  rcases h c hc with rfl | rfl
  · simp
  · simp

/-- Where suffixes can be read before something that closes a type, no argument list begins. -/
theorem head?_skipBlanks_ne_of_readSuffixes {s suffix rest : List Char} (hrest : Closes rest)
    (h : readSuffixes false s = .ok (suffix, rest)) : (skipBlanks s).head? ≠ some '<' := by
  intro hhead
  obtain ⟨cs, hcs⟩ := List.head?_eq_some_iff.1 hhead
  rw [← readSuffixes_skipBlanks, hcs] at h
  simp only [readSuffixes, isBlank_less, Bool.false_eq_true, if_false, Char.reduceEq,
    Except.ok.injEq, Prod.mk.injEq] at h
  rcases hrest '<' (by simp [← h.2]) with h | h
  · simp at h
  · simp at h

/-- The base name of a text that begins with blanks and a base. -/
theorem baseAhead_append {before base behind : List Char} (hbefore : IsBlanks before)
    (hbase : IsBase base) (hbehind : EndsName behind) :
    baseAhead (before ++ base ++ behind) = base ∧
      behindBase (before ++ base ++ behind) = behind := by
  have hskip : skipBlanks (before ++ base ++ behind) = base ++ behind := by
    rw [List.append_assoc, skipBlanks_append hbefore]
    refine skipBlanks_eq_self fun c hc => ?_
    obtain ⟨d, ds, rfl⟩ := List.exists_cons_of_ne_nil hbase.1
    have hcd : d = c := by simpa using hc
    exact hcd ▸ isBlank_eq_false_of_isNameChar (hbase.2 d (by simp))
  have htake : behind.takeWhile isNameChar = [] ∧ behind.dropWhile isNameChar = behind := by
    cases behind with
    | nil => simp
    | cons c cs =>
        have hc : isNameChar c = false := hbehind c (by simp)
        simp [hc]
  unfold baseAhead behindBase
  rw [hskip, List.takeWhile_append_of_pos hbase.2, List.dropWhile_append_of_pos hbase.2,
    htake.1, htake.2, List.append_nil]
  exact ⟨rfl, rfl⟩

mutual

/-- A derived text is taken off as a whole before anything that closes a type. -/
theorem takeType_complete {s rest : List Char} {t : TypeRef} (h : Spells s t)
    (hrest : Closes rest) : takeType (s ++ rest) = .ok (t, rest) := by
  match h with
  | @Spells.type before base gap list suffixes after args hbefore hbase hends hgap hargs
      hsuffixes hafter =>
      have hread := readSuffixes_complete hsuffixes hafter hrest
      obtain ⟨mid, hmid, hreadmid⟩ := takeArguments_complete hargs
        (head?_skipBlanks_ne_of_readSuffixes hrest hread)
      have hbehind := hends.append hrest.endsName
      obtain ⟨hahead, hbehind⟩ := baseAhead_append hbefore hbase hbehind
      have htext : before ++ base ++ gap ++ list ++ suffixes ++ after ++ rest =
          before ++ base ++ (gap ++ list ++ suffixes ++ after ++ rest) := by
        simp only [List.append_assoc]
      have hskip : skipBlanks (gap ++ list ++ suffixes ++ after ++ rest) =
          skipBlanks (list ++ (suffixes ++ after ++ rest)) := by
        simp only [List.append_assoc, skipBlanks_append hgap]
      rw [takeType_eq, htext, hahead, hbehind, if_neg hbase.1, hskip, hmid]
      simp only [Except.bind, Except.map, hreadmid, hread]

/-- A derived argument list is taken off before suffixes. -/
theorem takeArguments_complete {list tail : List Char} {args : List TypeRef}
    (h : SpellsArguments list args) (htail : (skipBlanks tail).head? ≠ some '<') :
    ∃ mid, takeArguments (skipBlanks (list ++ tail)) = .ok (args, mid) ∧
      readSuffixes false mid = readSuffixes false tail := by
  match h with
  | .absent =>
      exact ⟨skipBlanks tail, takeArguments_plain htail, readSuffixes_skipBlanks tail⟩
  | @SpellsArguments.listed inner _ hinner =>
      refine ⟨tail, ?_, rfl⟩
      have hskip : skipBlanks ('<' :: inner ++ ['>'] ++ tail) = '<' :: (inner ++ '>' :: tail) := by
        rw [skipBlanks_eq_self (by simp)]
        simp
      rw [hskip, takeArguments, takeTypes_complete hinner]

/-- Derived types are taken off with the bracket behind them. -/
theorem takeTypes_complete {s rest : List Char} {ts : List TypeRef} (h : SpellsTypes s ts) :
    takeTypes (s ++ '>' :: rest) = .ok (ts, rest) := by
  match h with
  | .last ht =>
      have hcloses : Closes ('>' :: rest) := by simp [Closes]
      rw [takeTypes_eq, takeType_complete ht hcloses]
      simp [Except.bind, hcloses.skipBlanks]
  | @SpellsTypes.more first behind t ts ht hts =>
      have hcloses : Closes (',' :: (behind ++ '>' :: rest)) := by simp [Closes]
      rw [takeTypes_eq, List.append_assoc, List.cons_append, takeType_complete ht hcloses]
      simp [Except.bind, hcloses.skipBlanks, takeTypes_complete hts, Except.map]

end

/-! ## Whole texts -/

theorem parse_eq_ok_iff {text : String} {t : TypeRef} :
    parse text = .ok t ↔ takeType text.toList = .ok (t, []) := by
  unfold parse takeType
  cases readType text.toList with
  | error e => simp [Except.map]
  | ok taken =>
      simp only [Except.map, Taken.bare, Except.ok.injEq, Prod.mk.injEq]
      split
      next hrest => simp [hrest]
      next c rest hrest => simp [hrest]

theorem spells_of_parse {text : String} {t : TypeRef} (h : parse text = .ok t) :
    Spells text.toList t := by
  obtain ⟨used, htext, hused⟩ := takeType_sound (parse_eq_ok_iff.1 h)
  rwa [htext, List.append_nil]

theorem parse_of_spells {text : String} {t : TypeRef} (h : Spells text.toList t) :
    parse text = .ok t := by
  have htake : takeType (text.toList ++ []) = .ok (t, []) :=
    takeType_complete h (by simp [Closes])
  rwa [List.append_nil, ← parse_eq_ok_iff] at htake

/-- **A text is read as a type exactly if the grammar derives it as that type.** -/
theorem parse_eq_ok_iff_spells (text : String) (t : TypeRef) :
    parse text = .ok t ↔ Spells text.toList t :=
  ⟨spells_of_parse, parse_of_spells⟩

end ControllerCompanion.TypeRef
