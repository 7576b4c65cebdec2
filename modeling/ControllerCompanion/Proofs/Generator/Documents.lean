import ControllerCompanion.Proofs.Declaration.Text
import ControllerCompanion.Proofs.Generator.Groups
import ControllerCompanion.Proofs.Generator.Types

set_option autoImplicit false

/-! # Reading generated namespaces back

A generated namespace is read back exactly if its own text could be the name of a type: the base
types of the override classes are qualified by that text, which nothing checks. All other types in
it are well formed. -/

namespace ControllerCompanion.Generator

open TypeRef

variable {g : Generator} {cs : List Controller}

/-- The types of a generated namespace are well formed if its text has name characters only. -/
theorem wellFormed_namespaceOf_iff (hg : ∀ t ∈ g.types, t.WellFormed) (hcs : ∀ c ∈ cs, c.IsSound)
    (views : List View) {ns : String} (hns : ns ∈ namespaceTexts cs) :
    (∀ t ∈ (g.namespaceOf cs views ns).types, t.WellFormed) ↔
      ∀ ch ∈ ns.toList, isNameChar ch = true := by
  have hsound : ∀ c ∈ controllersOf cs ns, c.IsSound :=
    fun c hc => hcs c (List.mem_filter.1 hc).1
  have hmem : ∀ t, t ∈ (g.namespaceOf cs views ns).types ↔ ∃ c ∈ controllersOf cs ns,
      t ∈ (g.partialClass c (g.areaOf ns) (viewsClass views).1).types ∨
        t ∈ (g.overrideClassIn c ns).types := by
    intro t
    rw [NamespaceDecl.types, namespaceOf, List.flatMap_assoc]
    simp [List.mem_flatMap]
  constructor
  · intro h
    -- there is a controller in it, and so a base type
    obtain ⟨c, hc⟩ := List.exists_mem_of_ne_nil _ (controllersOf_ne_nil hns)
    refine (wellFormed_overrideClassIn_iff hg (hsound c hc) ns).1 fun t ht => ?_
    exact h t ((hmem t).2 ⟨c, hc, .inr ht⟩)
  · intro h t ht
    obtain ⟨c, hc, ht | ht⟩ := (hmem t).1 ht
    · exact wellFormed_partialClass hg (hsound c hc) _ (wellFormed_viewsClass views) t ht
    · exact (wellFormed_overrideClassIn_iff hg (hsound c hc) ns).2 h t ht

/-- What is generated for sound controllers has well-formed types exactly if the texts of the
namespaces have name characters only. -/
theorem wellFormed_of_mem_namespaces_iff (hg : ∀ t ∈ g.types, t.WellFormed)
    (hcs : ∀ c ∈ cs, c.IsSound) {views : List View} {ns : List NamespaceDecl}
    (h : g.namespaces cs views = .ok ns) {n : NamespaceDecl} (hn : n ∈ ns) :
    (∀ t ∈ n.types, t.WellFormed) ↔ ∀ ch ∈ n.name.toList, isNameChar ch = true := by
  obtain ⟨-, rfl⟩ := namespaces_eq_ok_iff.1 h
  obtain ⟨text, htext, rfl⟩ := List.mem_map.1 hn
  exact wellFormed_namespaceOf_iff hg hcs views htext

/-- **The namespaces generated for an accepted model are read back as they are, apart from those
whose texts cannot be the name of a type.** So are their documents, where they are not nested too
deep for a reader. -/
theorem readBack_iff_isNameChar {text : String} {model : Model}
    (hmodel : Model.ofText text = .ok model) {views : List View} {ns : List NamespaceDecl}
    (hns : standard.namespaces model.controllers views = .ok ns) :
    ∀ n ∈ ns, (NamespaceDecl.decoder.ofJson n.encode = .ok n ↔
        ∀ ch ∈ n.name.toList, isNameChar ch = true) ∧
      (n.encode.nesting ≤ Json.nestingLimit →
        (NamespaceDecl.decoder.ofText n.encode.pretty = .ok n ↔
          ∀ ch ∈ n.name.toList, isNameChar ch = true)) := by
  intro n hn
  have htypes := wellFormed_of_mem_namespaces_iff wellFormed_standard
    (Model.isSound_of_ofText hmodel) hns hn
  rw [← htypes]
  refine ⟨⟨NamespaceDecl.wellFormed_of_ofJson, NamespaceDecl.ofJson_encode⟩, fun hnesting => ?_⟩
  exact NamespaceDecl.ofText_pretty_eq_ok_iff hnesting

/-- The document of a model with one controller, which has one action. -/
def oneActionText (namespaceText : String) : String :=
  "\x7b\"controllers\":[\x7b\"name\":\"HomeController\",\"namespace\":\"" ++ namespaceText
    ++ "\",\"methods\":[\x7b\"name\":\"Index\",\"return_type\":\"Task<int?[,]>\"\x7d]\x7d]\x7d"

/-- The controller in it. -/
def oneAction (namespaceText : String) : Controller :=
  { Controller.empty "HomeController" namespaceText with
    baseType := none
    methods := [⟨"Index", [], ⟨"Task", [⟨"int?[,]", []⟩]⟩, .publicAccess, false⟩] }

/-- The generated namespaces of that controller are the one of its text. -/
theorem namespaces_oneAction {namespaceText : String} (h : (trim namespaceText.toList) ≠ []) :
    standard.namespaces [oneAction namespaceText] []
      = .ok [standard.namespaceOf [oneAction namespaceText] [] namespaceText] := by
  have hresolved : (oneAction namespaceText).resolvedNamespace = some namespaceText := by
    simpa [Controller.resolvedNamespace, oneAction, Controller.empty, Option.filter] using h
  exact namespaces_of_shared (List.cons_ne_nil _ _) (List.forall_mem_singleton.2 hresolved) []

/-- An ordinary namespace is read back, with the suffixes and arguments of all its types. -/
theorem readBack_ordinaryNamespace :
    ∃ model, Model.ofText (oneActionText "App.Controllers") = .ok model ∧
      ∃ ns, standard.namespaces model.controllers [] = .ok ns ∧
        ∃ n ∈ ns, n.name = "App.Controllers" ∧ NamespaceDecl.decoder.ofJson n.encode = .ok n ∧
          NamespaceDecl.decoder.ofText n.encode.pretty = .ok n := by
  have h : (Model.ofText (oneActionText "App.Controllers")).toOption.map (·.controllers)
      = some [oneAction "App.Controllers"] := by
    decide +kernel
  obtain ⟨model, hmodel, hcontrollers⟩ := Option.map_eq_some_iff.1 h
  have hns := namespaces_oneAction (show trim "App.Controllers".toList ≠ [] by decide)
  rw [← hcontrollers] at hns
  refine ⟨model, eq_ok_of_toOption hmodel, _, hns, _, List.mem_singleton_self _, rfl, ?_⟩
  have hchars : ∀ ch ∈ "App.Controllers".toList, isNameChar ch = true :=
    List.all_eq_true.1 (by decide)
  obtain ⟨hjson, htext⟩ := readBack_iff_isNameChar (eq_ok_of_toOption hmodel) hns _
    (List.mem_singleton_self _)
  have hnesting : (standard.namespaceOf model.controllers [] "App.Controllers").encode.nesting
      ≤ Json.nestingLimit := by
    rw [hcontrollers]
    decide +kernel
  exact ⟨hjson.2 hchars, (htext hnesting).2 hchars⟩

/-- A namespace with a blank inside is accepted, and what is generated for it is not read back. -/
theorem not_readBack_spacedNamespace :
    ¬∀ (text : String) (model : Model) (views : List View) (ns : List NamespaceDecl),
      Model.ofText text = .ok model → standard.namespaces model.controllers views = .ok ns →
        ∀ n ∈ ns, NamespaceDecl.decoder.ofJson n.encode = .ok n := by
  intro hall
  have h : (Model.ofText (oneActionText "My App")).toOption.map (·.controllers)
      = some [oneAction "My App"] := by
    decide +kernel
  obtain ⟨model, hmodel, hcontrollers⟩ := Option.map_eq_some_iff.1 h
  have hns := namespaces_oneAction (show trim "My App".toList ≠ [] by decide)
  rw [← hcontrollers] at hns
  have hread := hall _ model [] _ (eq_ok_of_toOption hmodel) hns _ (List.mem_singleton_self _)
  have hsound := Model.isSound_of_ofText (eq_ok_of_toOption hmodel)
  have hchars := (wellFormed_of_mem_namespaces_iff wellFormed_standard hsound hns
    (List.mem_singleton_self _)).1 (NamespaceDecl.wellFormed_of_ofJson hread)
  exact absurd (hchars ' ' (show ' ' ∈ "My App".toList by decide)) (by decide)

end ControllerCompanion.Generator
