import ControllerCompanion.Proofs.Controller.Accepted
import ControllerCompanion.Proofs.Generator.Actions
import ControllerCompanion.Proofs.Generator.Passes

set_option autoImplicit false

/-! # The names of the classes in a namespace

A model has no two controllers of one name in a namespace, but nothing keeps the names of its
controllers apart from those of the override classes. So the classes of a generated namespace have
distinct names exactly if no controller in it is called like the override class of another one
(`nodup_classNames_iff`), and then each class is found by its name. -/

namespace ControllerCompanion

/-- The controllers of a model that are declared in one namespace have distinct names. -/
theorem Model.nodup_names_of_namespace (model : Model) (ns : String) :
    ((model.controllers.filter fun c => c.namespaceText = some ns).map Controller.name).Nodup := by
  have hkeys : ((model.controllers.filter fun c => c.namespaceText = some ns).map fun c =>
      (c.namespaceText, c.name)).Nodup :=
    model.nodup_keys.sublist (List.filter_sublist.map _)
  have hsame : ((model.controllers.filter fun c => c.namespaceText = some ns).map fun c =>
        (c.namespaceText, c.name))
      = ((model.controllers.filter fun c => c.namespaceText = some ns).map Controller.name).map
          fun name => (some ns, name) := by
    rw [List.map_map]
    refine List.map_congr_left ?_
    intro c hc
    have hns : c.namespaceText = some ns := of_decide_eq_true (List.mem_filter.1 hc).2
    rw [hns, Function.comp_apply]
  rw [hsame] at hkeys
  exact .of_map _ hkeys

namespace Generator

/-! ## Names and prefixed names -/

/-- Names with prefixed ones among them are distinct if no name is another one with the prefix. -/
theorem nodup_flatMap_prefixed_iff {names : List String} (hnames : names.Nodup) (before : String) :
    (names.flatMap fun name => [name, before ++ name]).Nodup ↔
      ∀ a ∈ names, ∀ b ∈ names, b ≠ before ++ a := by
  have hperm : (names.flatMap fun name => [name, before ++ name]).Perm
      (names ++ names.map (before ++ ·)) := by
    have h := List.flatMap_append_perm names (fun name => [name]) fun name => [before ++ name]
    rw [← List.map_eq_flatMap, ← List.map_eq_flatMap, List.map_id'] at h
    exact h.symm
  have hprefixed : (names.map (before ++ ·)).Nodup := by
    refine hnames.map ?_
    intro a b hab
    refine String.toList_injective ?_
    simpa using congrArg String.toList hab
  rw [hperm.nodup_iff, List.nodup_append]
  constructor
  · rintro ⟨-, -, hapart⟩ a ha b hb
    exact hapart b hb _ (List.mem_map_of_mem ha)
  · intro hapart
    refine ⟨hnames, hprefixed, ?_⟩
    intro b hb prefixed hmem
    obtain ⟨a, ha, rfl⟩ := List.mem_map.1 hmem
    exact hapart a ha b hb

/-! ## The classes -/

/-- The names of the classes are those of the controllers, each followed by the prefixed one. -/
theorem names_companions (g : Generator) (views : ClassDecl) (ns : String) (cs : List Controller) :
    (cs.flatMap (g.companions views ns)).map ClassDecl.name
      = (cs.map Controller.name).flatMap fun name =>
          [name, g.config.overrideClassPrefix ++ name] := by
  rw [List.map_flatMap, List.flatMap_map]
  refine List.flatMap_congr ?_
  intro c _
  rw [companions, List.map_cons, List.map_singleton, partialClass_name, overrideClassIn_name]

/-- **The classes of a generated namespace have distinct names exactly if no controller in it is
called like the override class of another one.** Then each class is found by its name. -/
theorem nodup_classNames_iff {g : Generator} {model : Model} {views : List View}
    {ns : List NamespaceDecl} (hns : g.namespaces model.controllers views = .ok ns) :
    ∀ n ∈ ns,
      ((n.classes.map ClassDecl.name).Nodup ↔
        ∀ c ∈ model.controllers, c.namespaceText = some n.name →
          ∀ d ∈ model.controllers, d.namespaceText = some n.name →
            d.name ≠ g.config.overrideClassPrefix ++ c.name) ∧
      ((n.classes.map ClassDecl.name).Nodup →
        ∀ c ∈ model.controllers, c.namespaceText = some n.name →
          n.class? c.name = some (g.partialClass c (g.areaOf n.name) (viewsClass views).1) ∧
            n.class? (g.config.overrideClassPrefix ++ c.name)
              = some (g.overrideClassIn c n.name)) := by
  intro n hn
  have hgrouped := isGrouped_of_namespaces hns
  refine ⟨?distinct, ?found⟩
  case distinct =>
    rw [hgrouped.classes n hn, names_companions,
      nodup_flatMap_prefixed_iff (model.nodup_names_of_namespace n.name)]
    simp only [List.forall_mem_map, List.mem_filter, decide_eq_true_eq, and_imp]
  case found =>
    intro hnodup c hc htext
    obtain ⟨hpartial, hoverride⟩ :=
      (hgrouped.forall_mem_classes_iff hn).1 (fun _ => id) c hc htext
    replace hpartial := Keyed.find?_eq_some_of_mem hnodup hpartial
    replace hoverride := Keyed.find?_eq_some_of_mem hnodup hoverride
    rw [partialClass_name] at hpartial
    rw [overrideClassIn_name] at hoverride
    exact ⟨hpartial, hoverride⟩

/-- Two controllers in one namespace. -/
def twoControllers (first second : String) : List Controller :=
  [.empty first "App", .empty second "App"]

theorem namespaces_twoControllers (first second : String) :
    standard.namespaces (twoControllers first second) []
      = .ok [standard.namespaceOf (twoControllers first second) [] "App"] := by
  refine namespaces_of_shared (List.cons_ne_nil _ _) ?_ []
  simp only [List.forall_mem_cons, List.not_mem_nil, false_imp_iff, implies_true, and_true]
  exact ⟨by rfl, by rfl⟩

/-- Two ordinary controllers have four classes, which are told apart. -/
theorem nodup_classNames_twoControllers :
    ∃ model : Model, model.controllers = twoControllers "HomeController" "UsersController" ∧
      ∃ ns, standard.namespaces model.controllers [] = .ok ns ∧ ∃ n ∈ ns,
        (n.classes.map ClassDecl.name).Nodup ∧ n.classes.length = 4 := by
  obtain ⟨model, hmodel⟩ : ∃ model : Model,
      model.controllers = twoControllers "HomeController" "UsersController" :=
    ⟨⟨_, by decide⟩, rfl⟩
  have hns := namespaces_twoControllers "HomeController" "UsersController"
  rw [← hmodel] at hns
  refine ⟨model, hmodel, _, hns, _, List.mem_singleton_self _, ?_, ?_⟩
  · rw [(nodup_classNames_iff hns _ (List.mem_singleton_self _)).1, hmodel]
    decide
  · rw [hmodel]
    rfl

/-- A controller may be called like the override class of another one. -/
theorem not_nodup_classNames_prefixed :
    ¬∀ (model : Model) (views : List View) (ns : List NamespaceDecl),
      standard.namespaces model.controllers views = .ok ns →
        ∀ n ∈ ns, (n.classes.map ClassDecl.name).Nodup := by
  intro hall
  have hns := namespaces_twoControllers "HomeController" "R4MVC_HomeController"
  have hnodup := hall ⟨_, by decide⟩ [] _ hns _ (List.mem_singleton_self _)
  exact absurd hnodup (by decide)

end Generator

end ControllerCompanion
