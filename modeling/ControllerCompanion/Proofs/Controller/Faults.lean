import ControllerCompanion.Proofs.Controller.Accepted
import Mathlib.Data.List.Nodup

set_option autoImplicit false

/-! # The first fault of a list of controllers

What is looked at in a list of controllers, item by item: each controller beside those before it,
and each of its names. A list is a model exactly if no item is faulty, and otherwise the complaint
is about the first item that is (`ofControllers_reports_first_fault`). -/

namespace ControllerCompanion.Model

/-! ## Items -/

/-- The name of a controller with its namespace, by which no two controllers may go. -/
def keyOf (c : Controller) : Option String × String := (c.namespaceText, c.name)

/-- Something that is looked at. -/
inductive Item where
  /-- A controller, with those before it. -/
  | controller (before : List Controller) (c : Controller)
  /-- A name that must be an identifier. -/
  | name (text : String)

/-- What is wrong with an item: a controller was declared before, a name is no identifier. -/
def Item.fault? : Item → Option Invalid
  | .controller before c =>
    if keyOf c ∈ before.map keyOf then some (.duplicateController c.name c.namespaceText) else none
  | .name text => if Identifier.isValid text then none else some (.identifier ⟨text⟩)

/-- The items of a controller: itself, its name, its type parameters, and then for each of its
    methods the name and those of the parameters. -/
def itemsOf (before : List Controller) (c : Controller) : List Item :=
  .controller before c :: .name c.name :: c.typeParameters.map .name
    ++ c.methods.flatMap fun m => .name m.name :: m.parameters.map fun p => .name p.name

/-- The items of a list of controllers, when those in `before` have been looked at. -/
def itemsFrom (before : List Controller) : List Controller → List Item
  | [] => []
  | c :: cs => itemsOf before c ++ itemsFrom (before ++ [c]) cs

/-- The items of a list of controllers, in the order in which they are looked at. -/
def items (cs : List Controller) : List Item := itemsFrom [] cs

/-- All names of a controller are identifiers. -/
structure IsNamed (c : Controller) : Prop where
  name : Identifier.isValid c.name = true
  typeParameters : ∀ p ∈ c.typeParameters, Identifier.isValid p = true
  methods : ∀ m ∈ c.methods, Identifier.isValid m.name = true
  parameters : ∀ m ∈ c.methods, ∀ p ∈ m.parameters, Identifier.isValid p.name = true

theorem itemsOf_eq (before : List Controller) (c : Controller) :
    itemsOf before c = .controller before c :: (namesOf c).map .name := by
  simp [itemsOf, namesOf, List.map_flatMap, Function.comp_def]

/-- No item of a controller is faulty exactly if it is a new one and its names are identifiers. -/
theorem forall_itemsOf_iff (before : List Controller) (c : Controller) :
    (∀ item ∈ itemsOf before c, item.fault? = none) ↔ keyOf c ∉ before.map keyOf ∧ IsNamed c := by
  have hname (text : String) :
      (Item.name text).fault? = none ↔ Identifier.isValid text = true := by
    simp [Item.fault?]
  have hcontroller : (Item.controller before c).fault? = none ↔ keyOf c ∉ before.map keyOf := by
    simp [Item.fault?]
  simp only [itemsOf, List.cons_append, List.forall_mem_cons, List.forall_mem_append,
    List.forall_mem_map, List.forall_mem_flatMap, hname, hcontroller]
  constructor
  · rintro ⟨hnew, hname, htypes, hmethods⟩
    exact ⟨hnew, hname, htypes, fun m hm => (hmethods m hm).1, fun m hm => (hmethods m hm).2⟩
  · rintro ⟨hnew, hnamed⟩
    exact ⟨hnew, hnamed.name, hnamed.typeParameters,
      fun m hm => ⟨hnamed.methods m hm, hnamed.parameters m hm⟩⟩

/-- No item of a list is faulty exactly if all controllers in it are new and have identifiers as
    names. -/
theorem forall_itemsFrom_iff {before : List Controller} (hbefore : (before.map keyOf).Nodup)
    (cs : List Controller) :
    (∀ item ∈ itemsFrom before cs, item.fault? = none)
      ↔ ((before ++ cs).map keyOf).Nodup ∧ ∀ c ∈ cs, IsNamed c := by
  induction cs generalizing before with
  | nil => simpa [itemsFrom] using hbefore
  | cons c cs ih =>
      rw [itemsFrom, List.forall_mem_append, forall_itemsOf_iff, List.forall_mem_cons]
      by_cases hnew : keyOf c ∈ before.map keyOf
      · -- a controller that was declared before makes both sides false
        have hagain : ¬((before ++ c :: cs).map keyOf).Nodup := by
          intro hnodup
          rw [List.map_append, List.map_cons] at hnodup
          exact List.disjoint_of_nodup_append hnodup hnew List.mem_cons_self
        simp only [hnew, hagain, not_true_eq_false, false_and]
      · have hwith : ((before ++ [c]).map keyOf).Nodup := by
          rw [List.map_append]
          exact hbefore.append (List.nodup_singleton _) (by simpa using hnew)
        rw [ih hwith, List.append_assoc, List.singleton_append]
        simp only [hnew, not_false_eq_true, true_and]
        exact and_left_comm

/-! ## Checking item by item -/

/-- The verdict on a list of items: the first fault in it, if there is one. -/
def verdict (items : List Item) : Except Invalid Unit :=
  (items.findSome? Item.fault?).elim (.ok ()) .error

theorem verdict_cons (item : Item) (rest : List Item) :
    verdict (item :: rest) = item.fault?.elim (verdict rest) .error := by
  unfold verdict
  rw [List.findSome?_cons]
  cases item.fault? <;> rfl

theorem verdict_append (first second : List Item) :
    verdict (first ++ second) = (verdict first).bind fun _ => verdict second := by
  unfold verdict
  rw [List.findSome?_append]
  cases first.findSome? Item.fault? <;> rfl

theorem verdict_eq_ok_iff (items : List Item) :
    verdict items = .ok () ↔ ∀ item ∈ items, item.fault? = none := by
  rw [← List.findSome?_eq_none_iff, verdict]
  cases items.findSome? Item.fault? <;> simp

/-- The verdict is the fault of an item before which no item is faulty. -/
theorem verdict_eq_error_iff (items : List Item) (e : Invalid) :
    verdict items = .error e ↔ ∃ before item after, items = before ++ item :: after
      ∧ (∀ i ∈ before, i.fault? = none) ∧ item.fault? = some e := by
  have hfirst : verdict items = .error e ↔ items.findSome? Item.fault? = some e := by
    rw [verdict]
    cases items.findSome? Item.fault? <;> simp
  rw [hfirst, List.findSome?_eq_some_iff]
  simp only [and_comm]

theorem checkNames_eq_verdict (names : List String) :
    checkNames names = verdict (names.map .name) := by
  induction names with
  | nil => rfl
  | cons name names ih =>
      rw [checkNames, Identifier.check, List.map_cons, verdict_cons, ← ih, Item.fault?]
      by_cases hvalid : Identifier.isValid name = true <;> simp [hvalid]

/-- **Checking looks at item after item.** The keys seen so far are those of the controllers that
have been looked at. -/
theorem checkFrom_eq_verdict {seen : List (Option String × String)} {before : List Controller}
    (hseen : ∀ key, key ∈ seen ↔ key ∈ before.map keyOf) (cs : List Controller) :
    checkFrom seen cs = verdict (itemsFrom before cs) := by
  induction cs generalizing seen before with
  | nil => rfl
  | cons c cs ih =>
      have hseen' : ∀ key, key ∈ keyOf c :: seen ↔ key ∈ (before ++ [c]).map keyOf := by
        intro key
        rw [List.mem_cons, List.map_append, List.mem_append, hseen, List.map_singleton,
          List.mem_singleton, or_comm]
      rw [itemsFrom, itemsOf_eq, List.cons_append, verdict_cons, verdict_append,
        ← checkNames_eq_verdict, ← ih hseen', checkFrom, Item.fault?]
      have hcheck :
          seen.contains (c.namespaceText, c.name) = true ↔ keyOf c ∈ before.map keyOf := by
        rw [List.contains_iff_mem]
        exact hseen _
      by_cases hagain : keyOf c ∈ before.map keyOf
      · rw [if_pos (hcheck.2 hagain), if_pos hagain]
        rfl
      · rw [if_neg (mt hcheck.1 hagain), if_neg hagain]
        cases checkNames (namesOf c) <;> rfl

theorem map_ofControllers (cs : List Controller) :
    (ofControllers cs).map controllers = (verdict (items cs)).map fun _ => cs := by
  have hcheck : checkFrom [] cs = verdict (items cs) := checkFrom_eq_verdict (by simp) cs
  rw [← hcheck]
  unfold ofControllers
  split
  next h =>
    show Except.ok cs = _
    rw [h]
    rfl
  next e h =>
    rw [h]
    rfl

/-- **A list of controllers is refused for its first fault, and else kept as it is.** It is a model
exactly if no two controllers have one name in one namespace and all names are identifiers. -/
theorem ofControllers_reports_first_fault (cs : List Controller) :
    (∀ kept, (ofControllers cs).map controllers = .ok kept
        ↔ kept = cs ∧ (cs.map keyOf).Nodup ∧ ∀ c ∈ cs, IsNamed c)
      ∧ ∀ e, ofControllers cs = .error e ↔ ∃ before item after,
        items cs = before ++ item :: after ∧ (∀ i ∈ before, i.fault? = none)
          ∧ item.fault? = some e := by
  constructor
  · intro kept
    have hitems : (∀ item ∈ items cs, item.fault? = none)
        ↔ (cs.map keyOf).Nodup ∧ ∀ c ∈ cs, IsNamed c :=
      have hnone : (([] : List Controller).map keyOf).Nodup := List.nodup_nil
      forall_itemsFrom_iff hnone cs
    rw [map_ofControllers, map_eq_ok_iff, ← hitems, ← verdict_eq_ok_iff]
    constructor
    · rintro ⟨_, hok, rfl⟩
      exact ⟨rfl, hok⟩
    · rintro ⟨rfl, hok⟩
      exact ⟨_, hok, rfl⟩
  · intro e
    rw [← verdict_eq_error_iff, ← map_eq_error_iff (f := controllers), map_ofControllers,
      map_eq_error_iff]

end ControllerCompanion.Model
