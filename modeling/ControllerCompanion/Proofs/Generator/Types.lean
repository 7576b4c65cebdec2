import ControllerCompanion.Generator.Namespaces
import ControllerCompanion.Proofs.Controller.Accepted
import ControllerCompanion.Proofs.Declaration.Building
import ControllerCompanion.Proofs.TypeRef.Names
import ControllerCompanion.Proofs.ViewsClass.Folder

set_option autoImplicit false

/-! # The types in generated classes

Which types the generated classes hold: those of the configuration, those that the actions of the
controller are declared with, and types named by an identifier. All of them are well formed if
the controller and the configuration are, apart from one, the base type of an override class,
which is qualified by the text of the namespace. -/

namespace ControllerCompanion

open TypeRef

/-- The type arguments of a well-formed type are well formed. -/
theorem TypeRef.WellFormed.of_mem_args {t a : TypeRef} (h : t.WellFormed) (ha : a ∈ t.args) :
    a.WellFormed := by
  cases h with
  | type _ hargs => exact hargs a ha

theorem TypeRef.mem_args_of_unwrapSingle {wrappers : List String} {t inner : TypeRef}
    (h : t.unwrapSingle wrappers = some inner) : inner ∈ t.args := by
  unfold unwrapSingle at h
  split at h
  next a hargs =>
    split at h
    · obtain rfl : a = inner := by simpa using h
      simp [hargs]
    · simp at h
  next => simp at h

/-! ## Controllers -/

namespace Controller

/-- A controller whose names are identifiers and whose types are well formed. -/
structure IsSound (c : Controller) : Prop where
  isValid : ∀ name ∈ Model.namesOf c, Identifier.isValid name = true
  wellFormed : ∀ t ∈ c.types, t.WellFormed

variable {c : Controller}

/-- The name of a controller is the base of a type. -/
theorem IsSound.isBase_name (hc : c.IsSound) : IsBase c.name.toList :=
  Identifier.isBase_of_isValid (hc.isValid c.name (by simp [Model.namesOf]))

/-- The type parameters of a controller are types. -/
theorem IsSound.wellFormed_typeParameters (hc : c.IsSound) :
    ∀ t ∈ c.typeParameters.map TypeRef.named, t.WellFormed := by
  intro t ht
  obtain ⟨name, hname, rfl⟩ := List.mem_map.1 ht
  exact wellFormed_named
    (Identifier.isBase_of_isValid (hc.isValid name (by simp [Model.namesOf, hname])))

theorem IsSound.wellFormed_selfType (hc : c.IsSound) : c.selfType.WellFormed :=
  wellFormed_of_isBase hc.isBase_name hc.wellFormed_typeParameters

/-- The types of an action are well formed. -/
theorem IsSound.wellFormed_of_mem_actions (hc : c.IsSound) {m : Method} (hm : m ∈ c.actions) :
    ∀ t ∈ m.types, t.WellFormed := by
  intro t ht
  have hmethod : m ∈ c.methods := List.mem_of_mem_filter hm
  exact hc.wellFormed t (List.mem_flatMap.2 ⟨m, hmethod, ht⟩)

end Controller

/-- The controllers of a document are sound. -/
theorem Model.isSound_of_ofText {text : String} {model : Model} (h : ofText text = .ok model) :
    ∀ c ∈ model.controllers, c.IsSound :=
  fun c hc => ⟨model.isValid_of_mem c hc, wellFormed_of_ofText h c hc⟩

/-! ## Generators -/

namespace Generator

/-- The types of a generator. -/
def types (g : Generator) : List TypeRef := [g.actionResult, g.callInfo, g.redirectResult, g.marker]

theorem wellFormed_of_configuredType {field text : String} {t : TypeRef}
    (h : configuredType field text = .ok t) : t.WellFormed := by
  rw [configuredType, mapError_eq_ok_iff] at h
  exact wellFormed_of_parse h

/-- The types of a generator that was made of a configuration are well formed. -/
theorem wellFormed_of_ofConfig {config : GeneratorConfig} {g : Generator}
    (h : ofConfig config = .ok g) : ∀ t ∈ g.types, t.WellFormed := by
  obtain ⟨actionResult, hactionResult, h⟩ := bind_eq_ok_iff.1 h
  obtain ⟨callInfo, hcallInfo, h⟩ := bind_eq_ok_iff.1 h
  obtain ⟨redirectResult, hredirectResult, h⟩ := bind_eq_ok_iff.1 h
  obtain ⟨marker, hmarker, h⟩ := bind_eq_ok_iff.1 h
  obtain rfl : (⟨config, actionResult, callInfo, redirectResult, marker⟩ : Generator) = g := by
    simpa [pure, Except.pure] using h
  intro t ht
  simp only [types, List.mem_cons, List.not_mem_nil, or_false] at ht
  rcases ht with rfl | rfl | rfl | rfl
  · exact wellFormed_of_configuredType hactionResult
  · exact wellFormed_of_configuredType hcallInfo
  · exact wellFormed_of_configuredType hredirectResult
  · exact wellFormed_of_configuredType hmarker

/-- The types of the default configuration are well formed. -/
theorem wellFormed_standard : ∀ t ∈ standard.types, t.WellFormed := by
  intro t ht
  simp only [types, standard, List.mem_cons, List.not_mem_nil, or_false] at ht
  rcases ht with rfl | rfl | rfl | rfl
  all_goals exact wellFormed_named (Identifier.isBase_of_isValid (by decide))

variable {g : Generator}

theorem types_attributes (g : Generator) : g.attributes.flatMap Attribute.types = [] := rfl

theorem wellFormed_string : (TypeRef.named "string").WellFormed :=
  wellFormed_named (Identifier.isBase_of_isValid (by decide))

/-! ## Partial classes -/

theorem mem_types_redirectMethods {t : TypeRef}
    (h : t ∈ g.redirectMethods.flatMap MethodDecl.types) :
    t = g.redirectResult ∨ t = g.actionResult ∨ t = ⟨"Task", [g.actionResult]⟩ := by
  have hpair : ∀ name toRoute, (g.redirectPair name toRoute).flatMap MethodDecl.types
      = [g.redirectResult, g.actionResult, g.redirectResult, ⟨"Task", [g.actionResult]⟩] :=
    fun _ _ => rfl
  rw [redirectMethods, List.flatMap_append, hpair, hpair] at h
  simp only [List.mem_append, List.mem_cons, List.not_mem_nil, or_false] at h
  grind

theorem types_actionStub (g : Generator) (action : String) :
    (g.actionStub action).types = [g.actionResult, g.callInfo] := rfl

theorem types_namesClass (className : String) (names : List String) (modifiers : List Modifier) :
    ∀ t ∈ (namesClass className names modifiers).types, t = .named "string" := by
  unfold namesClass
  refine List.foldlRecOn (motive := fun c : ClassDecl => ∀ t ∈ c.types, t = .named "string") _ _
    (by simp) ?_
  intro c hc name _
  rw [ClassDecl.types_addStringField]
  exact List.forall_mem_append.2 ⟨hc, by simp⟩

/-- The constructors of a partial class take nothing but the marker. -/
theorem types_partialConstructors (g : Generator) (c : Controller) :
    (g.partialConstructors c).types = [g.marker] := by
  unfold partialConstructors
  split
  · simp [ClassDecl.addMarkerConstructor, types_attributes]
  · simp [ClassDecl.addMarkerConstructor, ClassDecl.addDefaultConstructor, types_attributes]

theorem types_actionsSlot (g : Generator) (area name : String) :
    (g.actionsSlot area name).types = [] := by
  unfold actionsSlot
  split <;> rfl

/-- The types in a partial class are well formed. -/
theorem wellFormed_partialClass (hg : ∀ t ∈ g.types, t.WellFormed) {c : Controller}
    (hc : c.IsSound) (area : String) {views : ClassDecl}
    (hviews : ∀ t ∈ views.types, t.WellFormed) :
    ∀ t ∈ (g.partialClass c area views).types, t.WellFormed := by
  obtain ⟨hactionResult, hcallInfo, hredirectResult, hmarker, -⟩ :
      g.actionResult.WellFormed ∧ g.callInfo.WellFormed ∧ g.redirectResult.WellFormed ∧
        g.marker.WellFormed ∧ True := by
    simpa [types] using hg
  have hredirects : ∀ t ∈ g.redirectMethods.flatMap MethodDecl.types, t.WellFormed := by
    intro t ht
    rcases mem_types_redirectMethods ht with rfl | rfl | rfl
    · exact hredirectResult
    · exact hactionResult
    · exact wellFormed_of_isBase (Identifier.isBase_of_isValid (by decide))
        (List.forall_mem_singleton.2 hactionResult)
  have hstubs : ∀ t ∈ (g.actionStubs c).flatMap MethodDecl.types, t.WellFormed := by
    intro t ht
    obtain ⟨stub, hstub, ht⟩ := List.mem_flatMap.1 ht
    obtain ⟨action, -, rfl⟩ := List.mem_map.1 hstub
    rw [types_actionStub] at ht
    rcases List.mem_pair.1 ht with rfl | rfl
    · exact hactionResult
    · exact hcallInfo
  have hnames : ∀ className names modifiers, ∀ t ∈ (namesClass className names modifiers).types,
      t.WellFormed := by
    intro className names modifiers t ht
    rw [types_namesClass className names modifiers t ht]
    exact wellFormed_string
  have hactionNames : (TypeRef.named actionNamesClassName).WellFormed :=
    wellFormed_named (Identifier.isBase_of_isValid (by decide))
  have hviewsType : (TypeRef.named viewsClassName).WellFormed :=
    wellFormed_named (Identifier.isBase_of_isValid (by decide))
  simp only [partialClass, ClassDecl.types_addClass, ClassDecl.types_addProperty,
    ClassDecl.types_addInstanceField, ClassDecl.types_addStringField, ClassDecl.types_addMethods,
    types_partialConstructors, types_actionsSlot, actionNamesClass, actionConstantsClass]
  simp only [List.forall_mem_append, List.forall_mem_cons, Expr.types, List.not_mem_nil,
    IsEmpty.forall_iff, implies_true, and_true, and_assoc]
  exact ⟨hmarker, hredirects, hstubs, hc.wellFormed_selfType, wellFormed_string, wellFormed_string,
    wellFormed_string, hactionNames, hactionNames, hactionNames, hnames _ _ _, hnames _ _ _,
    hviewsType, hviewsType, hviewsType, hviews⟩

/-! ## Override classes -/

theorem types_parametersOf (m : Controller.Method) :
    (parametersOf m).map Parameter.type = m.parameters.map Controller.Parameter.type := by
  rw [parametersOf, List.map_map]
  rfl

/-- The types in a hook and in an override are those of the action, the call info and `void`. -/
theorem wellFormed_overridePair (hg : g.callInfo.WellFormed) {m : Controller.Method}
    (hm : ∀ t ∈ m.types, t.WellFormed) :
    ∀ t ∈ (g.overridePair m).flatMap MethodDecl.types, t.WellFormed := by
  obtain ⟨hreturn, hparameters⟩ := List.forall_mem_cons.1 hm
  have hvoid : (TypeRef.named "void").WellFormed :=
    wellFormed_named (Identifier.isBase_of_isValid (by decide))
  have hresult : ∀ t ∈ (g.overrideResult m).types, t.WellFormed := by
    unfold overrideResult
    split
    next inner hinner =>
      -- the wrapped result is cast to the argument of the wrapper
      have hwell := hreturn.of_mem_args (mem_args_of_unwrapSingle hinner)
      simpa [Expr.types, Expr.typesList] using hwell
    next => simp [Expr.types]
  have harguments : Expr.typesList ((parametersOf m).map fun p => .ident p.name) = [] :=
    Expr.types_of_idents Parameter.name (parametersOf m)
  simp only [overridePair, List.flatMap_cons, List.flatMap_nil, MethodDecl.types, hook,
    overrideMethod, Option.getD_none, Option.getD_some, Stmt.types, Expr.types, Expr.typesList,
    callInfoExpr, Attribute.types, Attribute.nonAction, List.map_cons, types_parametersOf,
    harguments, List.append_nil, List.nil_append, List.cons_append, List.forall_mem_append,
    List.forall_mem_cons]
  exact ⟨hvoid, hg, hparameters, hreturn, hparameters, hg, hresult⟩

/-- The types in an override class are well formed exactly if its base type is, which is so
exactly if the text of the namespace has name characters only. -/
theorem wellFormed_overrideClassIn_iff (hg : ∀ t ∈ g.types, t.WellFormed) {c : Controller}
    (hc : c.IsSound) (namespaceText : String) :
    (∀ t ∈ (g.overrideClassIn c namespaceText).types, t.WellFormed) ↔
      ∀ ch ∈ namespaceText.toList, isNameChar ch = true := by
  have hactions : ∀ t ∈ (c.actions.flatMap g.overridePair).flatMap MethodDecl.types,
      t.WellFormed := by
    intro t ht
    obtain ⟨d, hd, ht⟩ := List.mem_flatMap.1 ht
    obtain ⟨m, hm, hd⟩ := List.mem_flatMap.1 hd
    exact wellFormed_overridePair (hg g.callInfo (by simp [types]))
      (hc.wellFormed_of_mem_actions hm)
      t (List.mem_flatMap.2 ⟨d, hd, ht⟩)
  have hmem : ∀ t, t ∈ (g.overrideClassIn c namespaceText).types ↔
      t = ⟨namespaceText ++ "." ++ c.name, c.typeParameters.map .named⟩ ∨
        t ∈ (c.actions.flatMap g.overridePair).flatMap MethodDecl.types := by
    intro t
    simp only [overrideClassIn, ClassDecl.types_addMethods, ClassDecl.addBaseMarkerConstructor,
      ClassDecl.types_addConstructor, List.mem_append, ClassDecl.mem_types_addAttributes,
      ClassDecl.mem_types_addBaseTypes, types_attributes, ClassDecl.types_empty]
    simp [ConstructorInitializer.types]
  rw [← wellFormed_qualified_iff hc.isBase_name hc.wellFormed_typeParameters]
  constructor
  · intro h
    exact h _ ((hmem _).2 (.inl rfl))
  · intro h t ht
    rcases (hmem t).1 ht with rfl | ht
    · exact h
    · exact hactions t ht

/-! ## Views -/

theorem isBase_folderClassName (folder : String) : IsBase (folderClassName folder).toList := by
  have hend : ∀ ch ∈ "Class".toList, isNameChar ch = true := List.all_eq_true.1 (by decide)
  rw [toList_folderClassName]
  refine ⟨List.cons_ne_nil _ _, List.forall_mem_cons.2 ⟨by decide, fun ch hch => ?_⟩⟩
  rcases List.mem_append.1 hch with hch | hch
  · exact Identifier.isNameChar_of_mem_sanitize (List.dropWhile_subset _ hch)
  · exact hend ch hch

theorem wellFormed_viewNamesClass (views : List View) :
    ∀ t ∈ (viewNamesClass views).types, t.WellFormed := by
  unfold viewNamesClass
  refine List.foldlRecOn (motive := fun c : ClassDecl => ∀ t ∈ c.types, t.WellFormed) _ _
    (by simp) ?_
  intro c hc v _
  split
  · exact hc
  · rw [ClassDecl.types_addStringField]
    exact List.forall_mem_append.2 ⟨hc, List.forall_mem_singleton.2 wellFormed_string⟩

theorem wellFormed_addViewNames {c : ClassDecl} (hc : ∀ t ∈ c.types, t.WellFormed)
    (views : List View) : ∀ t ∈ (addViewNames c views).types, t.WellFormed := by
  unfold addViewNames
  split
  · exact hc
  · have hnames : (TypeRef.named viewNamesClassName).WellFormed :=
      wellFormed_named (Identifier.isBase_of_isValid (by decide))
    rw [ClassDecl.types_addInstanceField, ClassDecl.types_addClass]
    refine List.forall_mem_append.2 ⟨List.forall_mem_append.2 ⟨hc, ?_⟩, ?_⟩
    · exact wellFormed_viewNamesClass views
    · simpa using hnames

theorem wellFormed_addViews (path : List String) {c : ClassDecl}
    (hc : ∀ t ∈ c.types, t.WellFormed) (views : List View) :
    ∀ t ∈ (addViews path c views).1.types, t.WellFormed := by
  induction views generalizing c with
  | nil => exact hc
  | cons v views ih =>
      rw [addViews]
      split
      · exact ih hc
      · refine ih ?_
        rw [ClassDecl.types_addStringField]
        exact List.forall_mem_append.2 ⟨hc, List.forall_mem_singleton.2 wellFormed_string⟩

mutual

/-- The types in the class of a folder are well formed: they are texts and the classes of its
    folders. -/
theorem wellFormed_folderClass (path : List String) (name : String) (t : ViewTree) :
    ∀ u ∈ (folderClass path name t).1.types, u.WellFormed := by
  match t with
  | .folder views children =>
      rw [folderClass]
      refine wellFormed_addViews path ?_ views
      refine wellFormed_addFolders path ?_ children
      exact wellFormed_addViewNames (by simp) views

theorem wellFormed_addFolders (path : List String) {c : ClassDecl}
    (hc : ∀ u ∈ c.types, u.WellFormed) (children : List (String × ViewTree)) :
    ∀ u ∈ (addFolders path c children).1.types, u.WellFormed := by
  match children with
  | [] => exact hc
  | (folder, t) :: rest =>
      rw [addFolders]
      split
      · exact wellFormed_addFolders path hc rest
      · have hnested := wellFormed_folderClass (path ++ [folder]) (folderClassName folder) t
        have hname := wellFormed_named (isBase_folderClassName folder)
        refine wellFormed_addFolders path ?_ rest
        rw [addFolder, ClassDecl.types_addInstanceField, ClassDecl.types_addClass]
        have hbefore := List.forall_mem_append.2 ⟨hc, hnested⟩
        exact List.forall_mem_append.2 ⟨hbefore, by simpa using hname⟩

end

theorem wellFormed_viewsClass (views : List View) :
    ∀ t ∈ (viewsClass views).1.types, t.WellFormed :=
  wellFormed_folderClass [] viewsClassName _

end Generator

end ControllerCompanion
