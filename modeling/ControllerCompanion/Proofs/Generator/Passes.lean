import ControllerCompanion.Proofs.Generator.Groups
import Mathlib.Data.List.TakeWhile
import Mathlib.Data.Option.Basic

set_option autoImplicit false

/-! # A generation as a whole

A generation is nothing but the generation for each controller by itself, put into groups
(`namespaces_grouped`): no controller is lost or doubled, and none has an influence on what is
generated for another one. If the namespace of a controller is not known there is no result, and
the first such controller is told. -/

namespace ControllerCompanion

open Unicode

/-! ## Known namespaces -/

theorem trim_eq_nil_iff {s : List Char} : trim s = [] ↔ ∀ c ∈ s, isBlank c = true := by
  rw [trim, List.reverse_eq_nil_iff, List.dropWhile_eq_nil_iff]
  simp only [List.mem_reverse]
  constructor
  · intro h c hc
    rw [← List.takeWhile_append_dropWhile (p := isBlank) (l := s), List.mem_append] at hc
    rcases hc with hc | hc
    · exact (List.all_eq_true.1 List.all_takeWhile) c hc
    · exact h c hc
  · exact fun h c hc => h c ((List.dropWhile_sublist _).subset hc)

namespace Controller

/-- The namespace of the controller is known: there is a text, and not only of blanks. -/
def HasNamespace (c : Controller) : Prop :=
  ∃ ns, c.namespaceText = some ns ∧ ∃ ch ∈ ns.toList, isBlank ch = false

theorem resolvedNamespace_eq_some_iff {c : Controller} {ns : String} :
    c.resolvedNamespace = some ns ↔
      c.namespaceText = some ns ∧ ∃ ch ∈ ns.toList, isBlank ch = false := by
  rw [resolvedNamespace, Option.filter_eq_some_iff]
  simp [trim_eq_nil_iff]

theorem hasNamespace_iff {c : Controller} : c.HasNamespace ↔ c.resolvedNamespace ≠ none := by
  simp only [HasNamespace, ← resolvedNamespace_eq_some_iff, Option.ne_none_iff_exists']

/-- A known namespace is the declared one. -/
theorem HasNamespace.resolvedNamespace_eq {c : Controller} (h : c.HasNamespace) :
    c.resolvedNamespace = c.namespaceText := by
  obtain ⟨ns, hns⟩ := Option.ne_none_iff_exists'.1 (hasNamespace_iff.1 h)
  rw [hns, (resolvedNamespace_eq_some_iff.1 hns).1]

end Controller

namespace Generator

variable {cs : List Controller}

/-! ## Groups -/

/-- The controllers of all namespaces are the controllers. -/
theorem flatMap_controllersOf_perm (h : ∀ c ∈ cs, c.resolvedNamespace ≠ none) :
    ((namespaceTexts cs).flatMap (controllersOf cs)).Perm cs := by
  have hgroups : (namespaceTexts cs).flatMap (controllersOf cs)
      = ((namespaceTexts cs).map some).flatMap fun key =>
          cs.filter (key = ·.resolvedNamespace) := by
    rw [List.flatMap_map]
    exact List.flatMap_congr fun ns _ => List.filter_congr fun c _ => by simp [eq_comm]
  have hkeys : ((namespaceTexts cs).map some).Nodup :=
    (nodup_namespaceTexts cs).map (Option.some_injective String)
  refine Keyed.perm_of_filter_perm Controller.resolvedNamespace fun key => .of_eq ?_
  rw [hgroups, Keyed.filter_flatMap (by simp [eq_comm]) hkeys]
  split
  next => rfl
  next hkey =>
    -- a key that does not come up has no controllers
    refine (List.filter_eq_nil_iff.2 fun c hc hresolved => hkey ?_).symm
    obtain ⟨ns, hns⟩ := Option.ne_none_iff_exists'.1 (h c hc)
    rw [of_decide_eq_true hresolved, hns]
    exact List.mem_map_of_mem (mem_namespaceTexts.2 ⟨c, hc, hns⟩)

/-! ## The pass -/

/-- The two classes of a controller in a namespace. Nothing but the controller and the namespace
    decides on them, and what all controllers share: the generator and the class of the views. -/
def companions (g : Generator) (views : ClassDecl) (namespaceText : String) (c : Controller) :
    List ClassDecl :=
  [g.partialClass c (g.areaOf namespaceText) views, g.overrideClassIn c namespaceText]

/-- What is generated, for each namespace and as a whole, if all namespaces are known. -/
structure IsGrouped (g : Generator) (cs : List Controller) (views : ClassDecl)
    (ns : List NamespaceDecl) : Prop where
  /-- There is a namespace for each text, in the order of the first occurrences. -/
  names : ns.map NamespaceDecl.name = (cs.filterMap Controller.namespaceText).eraseDups
  /-- It holds the classes of its controllers, in the order of their declarations. -/
  classes : ∀ n ∈ ns, n.classes
    = (cs.filter fun c => c.namespaceText = some n.name).flatMap (g.companions views n.name)
  /-- The second class of each controller is its override class. -/
  overrides : ∀ c ∈ cs, ∀ text, c.namespaceText = some text →
    g.overrideClass c = .ok (g.overrideClassIn c text)
  /-- All in all, there are the classes of every controller. -/
  complete : (ns.flatMap NamespaceDecl.classes).Perm
    (cs.flatMap fun c => c.namespaceText.toList.flatMap fun text => g.companions views text c)
  count : (ns.flatMap NamespaceDecl.classes).length = 2 * cs.length

/-- The namespaces of all controllers are grouped. -/
theorem isGrouped_namespacesOf (g : Generator) (views : List View)
    (h : ∀ c ∈ cs, c.HasNamespace) :
    g.IsGrouped cs (viewsClass views).1 ((namespaceTexts cs).map (g.namespaceOf cs views)) := by
  have hresolved : ∀ c ∈ cs, c.resolvedNamespace = c.namespaceText :=
    fun c hc => (h c hc).resolvedNamespace_eq
  have hall : ((namespaceTexts cs).map (g.namespaceOf cs views)).flatMap NamespaceDecl.classes
      = (namespaceTexts cs).flatMap fun ns =>
          (controllersOf cs ns).flatMap (g.companions (viewsClass views).1 ns) := by
    rw [List.flatMap_map]
    rfl
  have hcomplete : (((namespaceTexts cs).map (g.namespaceOf cs views)).flatMap
        NamespaceDecl.classes).Perm
      (cs.flatMap fun c =>
        c.namespaceText.toList.flatMap fun text => g.companions (viewsClass views).1 text c) := by
    have hknown : ∀ c ∈ cs, c.resolvedNamespace ≠ none :=
      fun c hc => Controller.hasNamespace_iff.1 (h c hc)
    refine .trans (.of_eq ?_) ((flatMap_controllersOf_perm hknown).flatMap_right _)
    rw [hall, List.flatMap_assoc]
    refine List.flatMap_congr fun ns _ => List.flatMap_congr fun c hc => ?_
    obtain ⟨hc, hns⟩ := List.mem_filter.1 hc
    rw [← hresolved c hc, of_decide_eq_true hns, Option.toList_some, List.flatMap_singleton]
  refine ⟨?names, ?classes, ?overrides, hcomplete, ?count⟩
  case names =>
    rw [List.map_map, namespaceTexts, List.filterMap_congr hresolved]
    exact List.map_id _
  case classes =>
    intro n hn
    obtain ⟨ns, -, rfl⟩ := List.mem_map.1 hn
    have hmembers : controllersOf cs ns = cs.filter fun c => c.namespaceText = some ns :=
      List.filter_congr fun c hc => by rw [hresolved c hc]
    rw [namespaceOf, hmembers]
    rfl
  case overrides =>
    intro c hc text htext
    rw [← hresolved c hc] at htext
    rw [overrideClass, resolve_eq_ok_iff.2 htext]
    rfl
  case count =>
    have htwo : ∀ c ∈ cs, (c.namespaceText.toList.flatMap fun text =>
        g.companions (viewsClass views).1 text c).length = 2 := by
      intro c hc
      obtain ⟨ns, hns, -⟩ := h c hc
      simp [hns, companions]
    rw [hcomplete.length_eq, List.length_flatMap, List.map_congr_left htwo, List.map_const',
      List.sum_replicate_nat, Nat.mul_comm]

/-- What is generated is grouped. -/
theorem isGrouped_of_namespaces {g : Generator} {views : List View} {ns : List NamespaceDecl}
    (h : g.namespaces cs views = .ok ns) : g.IsGrouped cs (viewsClass views).1 ns := by
  obtain ⟨hknown, rfl⟩ := namespaces_eq_ok_iff.1 h
  exact isGrouped_namespacesOf g views fun c hc => Controller.hasNamespace_iff.2 (hknown c hc)

/-- What holds of all classes of a namespace holds of both classes of each of its controllers. -/
theorem IsGrouped.forall_mem_classes_iff {g : Generator} {views : ClassDecl}
    {ns : List NamespaceDecl} (h : g.IsGrouped cs views ns) {n : NamespaceDecl} (hn : n ∈ ns)
    {P : ClassDecl → Prop} :
    (∀ k ∈ n.classes, P k) ↔ ∀ c ∈ cs, c.namespaceText = some n.name →
      P (g.partialClass c (g.areaOf n.name) views) ∧ P (g.overrideClassIn c n.name) := by
  rw [h.classes n hn]
  simp only [List.forall_mem_flatMap, List.mem_filter, decide_eq_true_eq, and_imp, companions,
    List.forall_mem_cons, List.not_mem_nil, false_imp_iff, implies_true, and_true]

/-- **A generation is the generation for each controller, grouped by namespaces**, and if a
namespace is not known, the first controller without one is told and nothing else. -/
theorem namespaces_grouped (g : Generator) (cs : List Controller) (views : List View) :
    ((∀ c ∈ cs, c.HasNamespace) →
      ∃ ns, g.namespaces cs views = .ok ns ∧ g.IsGrouped cs (viewsClass views).1 ns) ∧
    (¬(∀ c ∈ cs, c.HasNamespace) →
      ∃ before c after, cs = before ++ c :: after ∧ (∀ d ∈ before, d.HasNamespace) ∧
        ¬c.HasNamespace ∧ g.namespaces cs views = .error ⟨c.name⟩) := by
  constructor
  · intro h
    refine ⟨_, namespaces_eq_ok_iff.2 ⟨?_, rfl⟩, isGrouped_namespacesOf g views h⟩
    exact fun c hc => Controller.hasNamespace_iff.1 (h c hc)
  · intro h
    cases hfind : cs.find? (·.resolvedNamespace.isNone) with
    | none =>
        refine absurd (fun c hc => Controller.hasNamespace_iff.2 ?_) h
        simpa using List.find?_eq_none.1 hfind c hc
    | some c =>
        obtain ⟨hc, before, after, rfl, hbefore⟩ := List.find?_eq_some_iff_append.1 hfind
        have hknown : ∀ d ∈ before, d.resolvedNamespace ≠ none := by
          simpa [Option.isSome_iff_ne_none] using hbefore
        have hnone : c.resolvedNamespace = none := by simpa using hc
        refine ⟨before, c, after, rfl, fun d hd => Controller.hasNamespace_iff.2 (hknown d hd),
          fun hplaced => Controller.hasNamespace_iff.1 hplaced hnone, ?_⟩
        rw [namespaces_eq, hfind]

end Generator

end ControllerCompanion
