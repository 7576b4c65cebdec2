import ControllerCompanion.Generator.Namespaces
import ControllerCompanion.Proofs.Keyed

set_option autoImplicit false

/-! # The generated namespaces

A generation groups the controllers by their namespaces as a whole: there is a namespace for each
text that comes up, in the order of the first occurrences, and it holds the two classes of each of
its controllers, in their order (`namespaces_eq_ok_iff`).

The groups are found by an index, one controller at a time. What a step makes of them is told by
the controllers so far (`Grouping.groups_add`), so the index does not come up anywhere else. -/

namespace ControllerCompanion.Generator

/-! ## Grouping -/

/-- The texts of the namespaces of some controllers, each where it first comes up. -/
def namespaceTexts (cs : List Controller) : List String :=
  (cs.filterMap Controller.resolvedNamespace).eraseDups

/-- The controllers of a namespace. -/
def controllersOf (cs : List Controller) (namespaceText : String) : List Controller :=
  cs.filter fun c => c.resolvedNamespace = some namespaceText

/-- The controllers of each namespace. -/
def groupsOf (cs : List Controller) : List (String × List Controller) :=
  (namespaceTexts cs).map fun ns => (ns, controllersOf cs ns)

theorem mem_namespaceTexts {cs : List Controller} {ns : String} :
    ns ∈ namespaceTexts cs ↔ ∃ c ∈ cs, c.resolvedNamespace = some ns := by
  simp [namespaceTexts, List.mem_eraseDups]

theorem nodup_namespaceTexts (cs : List Controller) : (namespaceTexts cs).Nodup :=
  Keyed.nodup_eraseDups _

/-- A namespace that comes up has a controller. -/
theorem controllersOf_ne_nil {cs : List Controller} {ns : String} (h : ns ∈ namespaceTexts cs) :
    controllersOf cs ns ≠ [] := by
  obtain ⟨c, hc, hns⟩ := mem_namespaceTexts.1 h
  exact List.ne_nil_of_mem (List.mem_filter.2 ⟨hc, by simpa using hns⟩)

theorem keys_groupsOf (cs : List Controller) :
    (groupsOf cs).map Prod.fst = namespaceTexts cs := by
  rw [groupsOf, List.map_map]
  exact List.map_id _

theorem controllersOf_concat {cs : List Controller} {c : Controller} {ns : String}
    (h : c.resolvedNamespace = some ns) (key : String) :
    controllersOf (cs ++ [c]) key = controllersOf cs key ++ if key = ns then [c] else [] := by
  rw [controllersOf, List.filter_append, controllersOf]
  by_cases hkey : key = ns
  · simp [h, hkey]
  · simp [h, hkey, Ne.symm hkey]

theorem namespaceTexts_concat {cs : List Controller} {c : Controller} {ns : String}
    (h : c.resolvedNamespace = some ns) :
    namespaceTexts (cs ++ [c])
      = namespaceTexts cs ++ if ns ∈ namespaceTexts cs then [] else [ns] := by
  have hc : [c].filterMap Controller.resolvedNamespace = [ns] := by simp [h]
  simp only [namespaceTexts, List.filterMap_append, hc, Keyed.eraseDups_concat, List.mem_eraseDups]

/-- A text that does not come up has no controllers. -/
theorem controllersOf_eq_nil {cs : List Controller} {ns : String} (h : ns ∉ namespaceTexts cs) :
    controllersOf cs ns = [] := by
  refine List.filter_eq_nil_iff.2 fun c hc hresolved => h ?_
  exact mem_namespaceTexts.2 ⟨c, hc, by simpa using hresolved⟩

theorem resolve_eq_ok_iff {c : Controller} {ns : String} :
    resolve c = .ok ns ↔ c.resolvedNamespace = some ns := by
  unfold resolve
  split
  next other hother => simp [hother]
  next hnone => simp [hnone]

/-! ## The index -/

namespace Grouping

theorem groups_add_of_some {gr : Grouping} {ns : String} {i : Nat}
    (h : gr.places.lookup ns = some i) (c : Controller) :
    (gr.add ns c).groups = gr.groups.modify i (join c) := by
  unfold add
  split
  next j hj =>
    obtain rfl : i = j := Option.some.inj (h.symm.trans hj)
    rfl
  next hnone => exact absurd (h.symm.trans hnone) (by simp)

theorem groups_add_of_none {gr : Grouping} {ns : String} (h : gr.places.lookup ns = none)
    (c : Controller) : (gr.add ns c).groups = gr.groups ++ [(ns, [c])] := by
  unfold add
  split
  next i hi => exact absurd (h.symm.trans hi) (by simp)
  next => rfl

/-- What the index does not have is the namespace of no group. -/
theorem not_mem_keys {gr : Grouping} {ns : String} (h : gr.places.lookup ns = none) :
    ns ∉ gr.groups.map Prod.fst := by
  intro hmem
  obtain ⟨i, hi⟩ := List.mem_iff_getElem?.1 hmem
  exact absurd (h.symm.trans ((gr.indexed ns i).2 hi)) (by simp)

/-- **A controller joins the group of its namespace**, which the index finds, or opens it. -/
theorem groups_add {gr : Grouping} {cs : List Controller} {c : Controller} {ns : String}
    (hgr : gr.groups = groupsOf cs) (h : c.resolvedNamespace = some ns) :
    (gr.add ns c).groups = groupsOf (cs ++ [c]) := by
  cases hplace : gr.places.lookup ns with
  | some i =>
      have hi : (namespaceTexts cs)[i]? = some ns := by
        rw [← keys_groupsOf, ← hgr]
        exact (gr.indexed ns i).1 hplace
      have hns : ns ∈ namespaceTexts cs := List.mem_of_getElem? hi
      rw [groups_add_of_some hplace, hgr, groupsOf, Keyed.modify_map (nodup_namespaceTexts cs) hi,
        groupsOf, namespaceTexts_concat h, if_pos hns, List.append_nil]
      refine List.map_congr_left fun key _ => ?_
      rw [controllersOf_concat h]
      by_cases hkey : key = ns
      · rw [if_pos hkey, if_pos hkey, join]
      · rw [if_neg hkey, if_neg hkey, List.append_nil]
  | none =>
      have hns : ns ∉ namespaceTexts cs := by
        rw [← keys_groupsOf, ← hgr]
        exact not_mem_keys hplace
      -- the new group has no other member, and the old ones stay
      have hnew : controllersOf (cs ++ [c]) ns = [c] := by
        rw [controllersOf_concat h, controllersOf_eq_nil hns, if_pos rfl, List.nil_append]
      have hold : (namespaceTexts cs).map (fun key => (key, controllersOf (cs ++ [c]) key))
          = groupsOf cs := by
        refine List.map_congr_left fun key hkey => ?_
        have hne : key ≠ ns := fun heq => hns (heq ▸ hkey)
        rw [controllersOf_concat h, if_neg hne, List.append_nil]
      have hgroups : groupsOf (cs ++ [c]) = groupsOf cs ++ [(ns, [c])] := by
        rw [groupsOf, namespaceTexts_concat h, if_neg hns, List.map_append, hold,
          List.map_singleton, hnew]
      rw [groups_add_of_none hplace, hgr, hgroups]

/-- **All controllers are grouped, or the first one whose namespace is not known is told.** -/
theorem groups_addAll {gr : Grouping} {before : List Controller}
    (hgr : gr.groups = groupsOf before) (cs : List Controller) :
    (gr.addAll cs).map Grouping.groups
      = match cs.find? (·.resolvedNamespace.isNone) with
        | some c => .error ⟨c.name⟩
        | none => .ok (groupsOf (before ++ cs)) := by
  induction cs generalizing before gr with
  | nil => simp [addAll, hgr, Except.map]
  | cons c cs ih =>
      rw [addAll, List.find?_cons]
      cases hc : c.resolvedNamespace with
      | none =>
          have hresolve : resolve c = .error ⟨c.name⟩ := by simp [resolve, hc]
          rw [hresolve]
          rfl
      | some ns =>
          rw [resolve_eq_ok_iff.2 hc]
          simpa using ih (groups_add hgr hc)

end Grouping

theorem groupByNamespace_eq (cs : List Controller) :
    groupByNamespace cs
      = match cs.find? (·.resolvedNamespace.isNone) with
        | some c => .error ⟨c.name⟩
        | none => .ok (groupsOf cs) :=
  @Grouping.groups_addAll .empty [] rfl cs

/-! ## Generating -/

/-- The namespace of a text: the two classes of each of its controllers. -/
def namespaceOf (g : Generator) (cs : List Controller) (views : List View)
    (namespaceText : String) : NamespaceDecl where
  name := namespaceText
  classes := (controllersOf cs namespaceText).flatMap fun c =>
    [g.partialClass c (g.areaOf namespaceText) (viewsClass views).1,
      g.overrideClassIn c namespaceText]

/-- The namespaces of some texts have these names. -/
theorem map_name_namespaceOf {g : Generator} {cs : List Controller} {views : List View}
    (texts : List String) :
    (texts.map (g.namespaceOf cs views)).map NamespaceDecl.name = texts := by
  rw [List.map_map]
  exact List.map_id texts

theorem addControllers_eq {g : Generator} {area : String} {views : ClassDecl} {n : NamespaceDecl}
    {ns : String} {cs : List Controller} (h : ∀ c ∈ cs, c.resolvedNamespace = some ns) :
    g.addControllers area views n cs
      = .ok { n with
          classes := n.classes ++ cs.flatMap fun c =>
            [g.partialClass c area views, g.overrideClassIn c ns] } := by
  induction cs generalizing n with
  | nil => simp [addControllers]
  | cons c cs ih =>
      obtain ⟨hc, hcs⟩ := List.forall_mem_cons.1 h
      have hoverrides : g.overrideClass c = .ok (g.overrideClassIn c ns) := by
        rw [overrideClass, resolve_eq_ok_iff.2 hc]
        rfl
      rw [addControllers, hoverrides]
      simp only [ih hcs]
      simp [NamespaceDecl.addClass]

theorem namespacesOfGroups_eq {g : Generator} {views : ClassDecl} {cs : List Controller}
    (keys : List String) :
    g.namespacesOfGroups views (keys.map fun ns => (ns, controllersOf cs ns))
      = .ok (keys.map fun ns => (⟨ns, (controllersOf cs ns).flatMap fun c =>
          [g.partialClass c (g.areaOf ns) views, g.overrideClassIn c ns]⟩ : NamespaceDecl)) := by
  induction keys with
  | nil => rfl
  | cons ns keys ih =>
      have hgroup : ∀ c ∈ controllersOf cs ns, c.resolvedNamespace = some ns := by
        intro c hc
        simpa using (List.mem_filter.1 hc).2
      rw [List.map_cons, namespacesOfGroups, addControllers_eq hgroup]
      simp only [ih]
      rfl

/-- The result of a generation, namespace by namespace. -/
theorem namespaces_eq (g : Generator) (cs : List Controller) (views : List View) :
    g.namespaces cs views
      = match cs.find? (·.resolvedNamespace.isNone) with
        | some c => .error ⟨c.name⟩
        | none => .ok ((namespaceTexts cs).map (g.namespaceOf cs views)) := by
  rw [namespaces, groupByNamespace_eq]
  cases cs.find? (·.resolvedNamespace.isNone) with
  | some c => rfl
  | none => exact namespacesOfGroups_eq (namespaceTexts cs)

/-- **A generation succeeds if the namespaces of all controllers are known**, and it gives a
namespace for each of their texts. -/
theorem namespaces_eq_ok_iff {g : Generator} {cs : List Controller} {views : List View}
    {ns : List NamespaceDecl} :
    g.namespaces cs views = .ok ns ↔
      (∀ c ∈ cs, c.resolvedNamespace ≠ none) ∧
        ns = (namespaceTexts cs).map (g.namespaceOf cs views) := by
  rw [namespaces_eq]
  cases hfind : cs.find? (·.resolvedNamespace.isNone) with
  | some c =>
      have hc : c.resolvedNamespace = none := by simpa using List.find?_some hfind
      simp only [reduceCtorEq, false_iff]
      rintro ⟨hknown, -⟩
      exact hknown c (List.mem_of_find?_eq_some hfind) hc
  | none =>
      have hknown : ∀ c ∈ cs, c.resolvedNamespace ≠ none := by
        simpa using List.find?_eq_none.1 hfind
      simp only [Except.ok.injEq]
      exact ⟨fun h => ⟨hknown, h.symm⟩, fun h => h.2.symm⟩

/-- Controllers of one namespace are generated into that one. -/
theorem namespaces_of_shared {g : Generator} {cs : List Controller} {ns : String} (hcs : cs ≠ [])
    (hshared : ∀ c ∈ cs, c.resolvedNamespace = some ns) (views : List View) :
    g.namespaces cs views = .ok [g.namespaceOf cs views ns] := by
  have htexts : namespaceTexts cs = [ns] := by
    refine List.perm_singleton.1 ((List.perm_ext_iff_of_nodup (nodup_namespaceTexts cs)
      (List.nodup_singleton ns)).2 fun text => ?_)
    rw [mem_namespaceTexts, List.mem_singleton]
    constructor
    · rintro ⟨c, hc, htext⟩
      exact Option.some.inj (htext.symm.trans (hshared c hc))
    · rintro rfl
      obtain ⟨c, hc⟩ := List.exists_mem_of_ne_nil cs hcs
      exact ⟨c, hc, hshared c hc⟩
  refine namespaces_eq_ok_iff.2 ⟨fun c hc => by simp [hshared c hc], ?_⟩
  rw [htexts, List.map_singleton]

end ControllerCompanion.Generator
