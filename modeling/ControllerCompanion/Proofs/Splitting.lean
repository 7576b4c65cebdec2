set_option autoImplicit false

/-! # Split lists

The parts of a list that is split at some of its items hold the other items, and none of those. A
list that is put together from parts holds nothing else than the parts and what separates them. So
the parts of a text are told by the text (`isSplit_iff`), and they are the last parts of another
one only where that one has a separator before the text (`splitOn_suffix_iff`). -/

namespace ControllerCompanion.Splitting

variable {α : Type} {p : α → Bool} {l part : List α} {x : α}

/-- What is in a part is in the list, and the list is not split at it. -/
theorem mem_of_mem_splitOnP (hpart : part ∈ l.splitOnP p) (hx : x ∈ part) :
    x ∈ l ∧ p x = false := by
  induction l generalizing part with
  | nil =>
      rw [List.splitOnP_nil, List.mem_singleton] at hpart
      rw [hpart] at hx
      exact absurd hx List.not_mem_nil
  | cons y rest ih =>
      rw [List.splitOnP_cons_eq_if_modifyHead] at hpart
      by_cases hy : p y = true
      · rw [if_pos hy] at hpart
        rcases List.mem_cons.1 hpart with rfl | hpart
        · exact absurd hx List.not_mem_nil
        · obtain ⟨hmem, hfalse⟩ := ih hpart hx
          exact ⟨List.mem_cons_of_mem y hmem, hfalse⟩
      · rw [if_neg hy] at hpart
        obtain ⟨first, others, hsplit⟩ :=
          List.exists_cons_of_ne_nil (List.splitOnP_ne_nil p rest)
        rw [hsplit, List.modifyHead_cons] at hpart
        rcases List.mem_cons.1 hpart with rfl | hother
        · -- the item goes on with the first part of what is behind it
          rcases List.mem_cons.1 hx with rfl | hx
          · exact ⟨List.mem_cons_self, Bool.eq_false_iff.2 hy⟩
          · obtain ⟨hmem, hfalse⟩ := ih (hsplit ▸ List.mem_cons_self) hx
            exact ⟨List.mem_cons_of_mem y hmem, hfalse⟩
        · obtain ⟨hmem, hfalse⟩ := ih (hsplit ▸ List.mem_cons_of_mem first hother) hx
          exact ⟨List.mem_cons_of_mem y hmem, hfalse⟩

theorem eq_or_mem_of_mem_intercalate {sep : α} {parts : List (List α)}
    (h : x ∈ [sep].intercalate parts) : x = sep ∨ ∃ part ∈ parts, x ∈ part := by
  induction parts with
  | nil => cases h
  | cons first rest ih =>
      cases rest with
      | nil =>
          have hfirst : x ∈ first := by simpa [List.intercalate] using h
          exact .inr ⟨first, List.mem_singleton_self first, hfirst⟩
      | cons second others =>
          have hsplit : [sep].intercalate (first :: second :: others)
              = first ++ sep :: [sep].intercalate (second :: others) := by
            simp [List.intercalate]
          rw [hsplit] at h
          rcases List.mem_append.1 h with hfirst | hbehind
          · exact .inr ⟨first, List.mem_cons_self, hfirst⟩
          rcases List.mem_cons.1 hbehind with hsep | hrest
          · exact .inl hsep
          · refine (ih hrest).imp_right ?_
            rintro ⟨part, hpart, hx⟩
            exact ⟨part, List.mem_cons_of_mem first hpart, hx⟩

/-! ## Last parts -/

variable [BEq α] [LawfulBEq α] {sep : α}

theorem not_mem_of_mem_splitOn (h : part ∈ l.splitOn sep) : sep ∉ part := by
  rw [List.splitOn_eq_splitOnP] at h
  intro hsep
  exact absurd (mem_of_mem_splitOnP h hsep).2 (by simp)

variable (sep) in
theorem splitOn_injective : Function.Injective (List.splitOn sep) :=
  Function.LeftInverse.injective fun _ => List.intercalate_splitOn sep

/-- The parts of a list are the last parts of another one exactly if it is the whole of it, or what
    follows one of its separators. -/
theorem splitOn_suffix_iff {short long : List α} :
    short.splitOn sep <:+ long.splitOn sep ↔ short = long ∨ sep :: short <:+ long := by
  constructor
  · rintro ⟨front, hfront⟩
    by_cases hnil : front = []
    · rw [hnil, List.nil_append] at hfront
      exact .inl (splitOn_injective sep hfront)
    · -- the parts before can be joined, as they hold no separator
      have hparts : ([sep].intercalate front).splitOn sep = front := by
        refine List.splitOn_intercalate sep (fun part hpart => ?_) hnil
        exact not_mem_of_mem_splitOn (hfront ▸ List.mem_append_left _ hpart)
      refine .inr ⟨[sep].intercalate front, splitOn_injective sep ?_⟩
      rw [List.splitOn_append_cons_self, hparts, hfront]
  · rintro (rfl | ⟨front, rfl⟩)
    · exact List.suffix_refl _
    · rw [List.splitOn_append_cons_self]
      exact List.suffix_append _ _

/-! ## Texts -/

/-- The parts of a text between separators: they hold none, and make the text with one between any
    two of them. -/
structure IsSplit (separator : Char) (text : String) (parts : List String) : Prop where
  nonempty : parts ≠ []
  not_mem : ∀ part ∈ parts, separator ∉ part.toList
  joined : (String.ofList [separator]).intercalate parts = text

variable {separator : Char} {text : String} {parts : List String}

theorem IsSplit.splitOn_eq (h : IsSplit separator text parts) :
    text.toList.splitOn separator = parts.map String.toList := by
  rw [← h.joined, String.toList_intercalate, String.toList_ofList]
  exact List.splitOn_intercalate separator (List.forall_mem_map.2 h.not_mem)
    (by simpa using h.nonempty)

/-- A text has its parts in one way only. -/
theorem isSplit_iff :
    IsSplit separator text parts ↔ (text.toList.splitOn separator).map String.ofList = parts := by
  constructor
  · intro h
    have hid : String.ofList ∘ String.toList = id := funext fun _ => String.ofList_toList
    rw [h.splitOn_eq, List.map_map, hid, List.map_id]
  · rintro rfl
    refine ⟨by simp [List.splitOn_ne_nil], List.forall_mem_map.2 fun part hpart => ?_, ?_⟩
    · rw [String.toList_ofList]
      exact not_mem_of_mem_splitOn hpart
    · have hid : String.toList ∘ String.ofList = id := funext fun _ => String.toList_ofList
      rw [← String.toList_inj, String.toList_intercalate, String.toList_ofList, List.map_map, hid,
        List.map_id]
      exact List.intercalate_splitOn separator

/-- A text without empty parts does not begin with a separator. -/
theorem IsSplit.head?_ne (h : IsSplit separator text parts) (hempty : "" ∉ parts) :
    text.toList.head? ≠ some separator := by
  intro hhead
  obtain ⟨rest, htext⟩ := List.head?_eq_some_iff.1 hhead
  refine hempty ?_
  rw [← isSplit_iff.1 h, htext, ← List.nil_append (separator :: rest),
    List.splitOn_append_cons_self]
  simp

end ControllerCompanion.Splitting
