import ControllerCompanion.Controller.Model
import ControllerCompanion.Proofs.Decoder.Yields

set_option autoImplicit false

/-! # Accepted models

What is known of the controllers of a document that was accepted: their names were checked to be
identifiers, and their types were read from texts. Nothing is known of their namespaces. -/

namespace ControllerCompanion

open Decoder Decoder.Record

/-! ## Types -/

namespace Controller

/-- The types in a method. -/
def Method.types (m : Method) : List TypeRef := m.returnType :: m.parameters.map Parameter.type

/-- The types in the methods of a controller. -/
def types (c : Controller) : List TypeRef := c.methods.flatMap Method.types

theorem Parameter.yields_decoder : Parameter.decoder.Yields fun p => p.type.WellFormed := by
  refine yields_record (.and (.and (.pure ?_) (.required (yields_true _)))
    (.required yields_typeRef))
  intro name _ type htype
  exact htype

theorem Method.yields_decoder :
    Method.decoder.Yields fun m => ∀ t ∈ m.types, t.WellFormed := by
  refine yields_record (.and (.and (.and (.and (.and (.pure ?_) (.required (yields_true _)))
    (.defaulted (by simp) Parameter.yields_decoder.list)) (.required yields_typeRef))
    (.defaulted trivial (yields_true _))) (.defaulted trivial (yields_true _)))
  intro name _ parameters hparameters returnType hreturn accessibility _ generated _
  exact List.forall_mem_cons.2 ⟨hreturn, List.forall_mem_map.2 hparameters⟩

theorem yields_decoder : decoder.Yields fun c => ∀ t ∈ c.types, t.WellFormed := by
  refine yields_record (.and (.and (.and (.and (.and (.and (.pure ?_) (.required (yields_true _)))
    (.defaulted trivial (yields_true _))) (.defaulted trivial (yields_true _)))
    (.defaulted trivial (yields_true _))) (.defaulted trivial (yields_true _)))
    (.defaulted (by simp) Method.yields_decoder.list))
  intro name _ namespaceText _ baseType _ typeParameters _ constructors _ methods hmethods t ht
  obtain ⟨m, hm, ht⟩ := List.mem_flatMap.1 ht
  exact hmethods m hm t ht

end Controller

/-! ## Names -/

namespace Model

theorem isValid_of_checkNames {names : List String} (h : checkNames names = .ok ()) :
    ∀ name ∈ names, Identifier.isValid name = true := by
  induction names with
  | nil => simp
  | cons name names ih =>
      unfold checkNames at h
      split at h
      · simp at h
      next hname =>
        refine List.forall_mem_cons.2 ⟨?_, ih h⟩
        rw [Identifier.check] at hname
        split at hname
        next hvalid => exact hvalid
        next => simp at hname

theorem isValid_of_checkFrom {seen : List (Option String × String)} {cs : List Controller}
    (h : checkFrom seen cs = .ok ()) :
    ∀ c ∈ cs, ∀ name ∈ namesOf c, Identifier.isValid name = true := by
  induction cs generalizing seen with
  | nil => simp
  | cons c cs ih =>
      unfold checkFrom at h
      split at h
      · simp at h
      · split at h
        · simp at h
        next hc => exact List.forall_mem_cons.2 ⟨isValid_of_checkNames hc, ih h⟩

/-- The names of a model's controllers are identifiers, down to those of the parameters. -/
theorem isValid_of_mem (model : Model) :
    ∀ c ∈ model.controllers, ∀ name ∈ namesOf c, Identifier.isValid name = true :=
  isValid_of_checkFrom model.checked

/-- No controller comes up twice in a namespace, nor is one among those seen before. -/
theorem nodup_of_checkFrom {seen : List (Option String × String)} {cs : List Controller}
    (h : checkFrom seen cs = .ok ()) :
    (seen ++ cs.map fun c => (c.namespaceText, c.name)).Nodup ↔ seen.Nodup := by
  induction cs generalizing seen with
  | nil => simp
  | cons c cs ih =>
      unfold checkFrom at h
      split at h
      · simp at h
      next hnew =>
        split at h
        · simp at h
        next =>
          have hc : (c.namespaceText, c.name) ∉ seen := by simpa using hnew
          rw [List.map_cons, List.perm_middle.nodup_iff, ← List.cons_append, ih h,
            List.nodup_cons]
          exact and_iff_right hc

/-- A model has no two controllers of one name in a namespace. -/
theorem nodup_keys (model : Model) :
    (model.controllers.map fun c => (c.namespaceText, c.name)).Nodup :=
  (nodup_of_checkFrom model.checked).2 .nil

/-- The controllers of a document are those that were decoded. -/
theorem ofText_eq_ok_iff {text : String} {model : Model} :
    ofText text = .ok model ↔ controllersDecoder.ofText text = .ok model.controllers := by
  unfold ofText ofControllers
  split
  next p hp => simp [hp]
  next cs hcs =>
    rw [hcs]
    split
    next hchecked =>
      obtain ⟨controllers, hcontrollers⟩ := model
      simp
    next e he =>
      simp only [mapError_error, reduceCtorEq, Except.ok.injEq, false_iff]
      rintro rfl
      simp [model.checked] at he

theorem yields_controllersDecoder :
    controllersDecoder.Yields fun cs => ∀ c ∈ cs, ∀ t ∈ c.types, t.WellFormed := by
  refine yields_record (.and (.pure ?_) (.defaulted (by simp) Controller.yields_decoder.list))
  intro cs hcs
  exact hcs

/-- The types of the controllers of a document are well formed. -/
theorem wellFormed_of_ofText {text : String} {model : Model} (h : ofText text = .ok model) :
    ∀ c ∈ model.controllers, ∀ t ∈ c.types, t.WellFormed :=
  yields_controllersDecoder.of_ofText (ofText_eq_ok_iff.1 h)

end Model

end ControllerCompanion
