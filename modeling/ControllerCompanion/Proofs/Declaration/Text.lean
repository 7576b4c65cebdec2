import ControllerCompanion.Proofs.Declaration.Decoded
import ControllerCompanion.Proofs.Json.Reading

set_option autoImplicit false

/-! # Declarations as texts

A tree of declarations is written without numbers, so its document is read back where its value
is, as long as no more containers stand in one another than a reader allows
(`NamespaceDecl.ofText_pretty_eq_ok_iff`). -/

namespace ControllerCompanion

open Json

/-! ## Values without numbers -/

namespace Json

theorem numbersItems_map {α : Type} {encode : α → Json} {as : List α}
    (h : ∀ a ∈ as, (encode a).numbers = []) : numbersItems (as.map encode) = [] := by
  induction as with
  | nil => rfl
  | cons a as ih =>
      obtain ⟨ha, has⟩ := List.forall_mem_cons.1 h
      rw [List.map_cons, numbersItems, ha, ih has, List.append_nil]

theorem numbersMembers_append (ms ms' : List (String × Json)) :
    numbersMembers (ms ++ ms') = numbersMembers ms ++ numbersMembers ms' := by
  induction ms with
  | nil => rfl
  | cons m ms ih =>
      obtain ⟨key, v⟩ := m
      rw [List.cons_append, numbersMembers, numbersMembers, ih, List.append_assoc]

theorem numbersMembers_memberIfAny {α : Type} {encode : α → Json} {as : List α} (key : String)
    (h : ∀ a, (encode a).numbers = []) : numbersMembers (memberIfAny key encode as) = [] := by
  cases as with
  | nil => rfl
  | cons a as =>
      rw [memberIfAny, numbersMembers, numbers, numbersItems_map fun a _ => h a]
      · rfl
      · simp

theorem numbersMembers_memberIfSome {α : Type} {encode : α → Json} {o : Option α} (key : String)
    (h : ∀ a, (encode a).numbers = []) : numbersMembers (memberIfSome key encode o) = [] := by
  cases o with
  | none => rfl
  | some a => rw [memberIfSome, numbersMembers, h a]; rfl

end Json

/-! ## Declarations -/

theorem TypeRef.numbers_encode (t : TypeRef) : t.encode.numbers = [] := rfl

theorem Modifier.numbers_encodeList (ms : List Modifier) : (encodeList ms).numbers = [] :=
  numbersItems_map fun _ _ => rfl

mutual

theorem Expr.numbers_encode (e : Expr) : e.encode.numbers = [] := by
  cases e with
  | ident name => rfl
  | stringLiteral value => rfl
  | memberAccess target member =>
      simp [Expr.encode, numbers, numbersMembers, Expr.numbers_encode target]
  | invocation target args =>
      simp [Expr.encode, numbers, numbersMembers, Expr.numbers_encode target,
        Expr.numbersItems_encodeList args]
  | objectCreation type args =>
      simp [Expr.encode, numbers, numbersMembers, TypeRef.numbers_encode,
        Expr.numbersItems_encodeList args]
  | asType expr type =>
      simp [Expr.encode, numbers, numbersMembers, TypeRef.numbers_encode,
        Expr.numbers_encode expr]

theorem Expr.numbersItems_encodeList (es : List Expr) :
    numbersItems (Expr.encodeList es) = [] := by
  match es with
  | [] => rfl
  | e :: es =>
      rw [Expr.encodeList, numbersItems, Expr.numbers_encode e, Expr.numbersItems_encodeList es]
      rfl

end

theorem Stmt.numbers_encode (st : Stmt) : st.encode.numbers = [] := by
  cases st with
  | declare name init => simp [Stmt.encode, numbers, numbersMembers, Expr.numbers_encode]
  | expression expr => simp [Stmt.encode, numbers, numbersMembers, Expr.numbers_encode]
  | result expr => simp [Stmt.encode, numbers, numbersMembers, Expr.numbers_encode]

theorem Stmt.numbers_encodeList (body : List Stmt) : (Stmt.encodeList body).numbers = [] :=
  numbersItems_map fun st _ => st.numbers_encode

theorem Attribute.numbers_encode (a : Attribute) : a.encode.numbers = [] :=
  numbersMembers_memberIfAny "args" Expr.numbers_encode

theorem Parameter.numbers_encode (p : Parameter) : p.encode.numbers = [] := rfl

theorem FieldDecl.numbers_encodeMembers (f : FieldDecl) :
    numbersMembers f.encodeMembers = [] := by
  simp [encodeMembers, numbersMembers, numbers, numbersMembers_memberIfSome _ Expr.numbers_encode,
    TypeRef.numbers_encode, Modifier.numbers_encodeList]

theorem PropertyDecl.numbers_encodeMembers (p : PropertyDecl) :
    numbersMembers p.encodeMembers = [] := by
  simp [encodeMembers, numbersMembers, numbers, TypeRef.numbers_encode,
    Modifier.numbers_encodeList, Expr.numbers_encode]

theorem ConstructorInitializer.numbers_encode (i : ConstructorInitializer) :
    i.encode.numbers = [] := by
  obtain ⟨args⟩ := i
  have hargs := numbersItems_map fun e (_ : e ∈ args) => e.numbers_encode
  simp [encode, numbers, numbersMembers, hargs]

theorem ConstructorDecl.numbers_encodeMembers (c : ConstructorDecl) :
    numbersMembers c.encodeMembers = [] := by
  have hparameters := numbersItems_map fun p (_ : p ∈ c.parameters) => p.numbers_encode
  simp [encodeMembers, numbersMembers_append, numbersMembers, numbers, hparameters,
    Modifier.numbers_encodeList, Stmt.numbers_encodeList,
    numbersMembers_memberIfSome _ ConstructorInitializer.numbers_encode,
    numbersMembers_memberIfAny _ Attribute.numbers_encode]

theorem MethodDecl.numbers_encodeMembers (m : MethodDecl) :
    numbersMembers m.encodeMembers = [] := by
  have hparameters := numbersItems_map fun p (_ : p ∈ m.parameters) => p.numbers_encode
  -- a missing body is `null`
  have hbody : (nullable Stmt.encodeList m.body).numbers = [] := by
    cases m.body with
    | none => rfl
    | some body => exact Stmt.numbers_encodeList body
  simp [encodeMembers, numbersMembers, numbers, hparameters, hbody,
    TypeRef.numbers_encode, Modifier.numbers_encodeList,
    numbersMembers_memberIfAny _ Attribute.numbers_encode]

mutual

theorem ClassDecl.numbers_encodeMembers (c : ClassDecl) : numbersMembers c.encodeMembers = [] := by
  obtain ⟨name, modifiers, typeParameters, baseTypes, attributes, members⟩ := c
  have hparameters : numbersMembers (memberIfAny "type_parameters" .string typeParameters) = [] :=
    numbersMembers_memberIfAny _ fun _ => rfl
  simp [ClassDecl.encodeMembers, numbersMembers_append, numbersMembers, numbers, hparameters,
    Modifier.numbers_encodeList, numbersMembers_memberIfAny _ TypeRef.numbers_encode,
    numbersMembers_memberIfAny _ Attribute.numbers_encode, Member.numbersItems_encodeList members]

theorem Member.numbers_encode (m : Member) : m.encode.numbers = [] := by
  cases m with
  | field f => simp [Member.encode, numbers, numbersMembers, f.numbers_encodeMembers]
  | property p => simp [Member.encode, numbers, numbersMembers, p.numbers_encodeMembers]
  | constructor c => simp [Member.encode, numbers, numbersMembers, c.numbers_encodeMembers]
  | method m => simp [Member.encode, numbers, numbersMembers, m.numbers_encodeMembers]
  | nestedClass c =>
      simp [Member.encode, numbers, numbersMembers, ClassDecl.numbers_encodeMembers c]

theorem Member.numbersItems_encodeList (ms : List Member) :
    numbersItems (Member.encodeList ms) = [] := by
  match ms with
  | [] => rfl
  | m :: ms =>
      rw [Member.encodeList, numbersItems, Member.numbers_encode m,
        Member.numbersItems_encodeList ms]
      rfl

end

theorem NamespaceDecl.numbers_encode (n : NamespaceDecl) : n.encode.numbers = [] := by
  have hclasses := numbersItems_map fun c (_ : c ∈ n.classes) =>
    (show c.encode.numbers = [] from c.numbers_encodeMembers)
  simp [encode, numbers, numbersMembers, hclasses]

/-! ## Documents -/

/-- **The document of a namespace is read back exactly if its types are well formed**, where it is
not nested too deep. -/
theorem NamespaceDecl.ofText_pretty_eq_ok_iff {n : NamespaceDecl}
    (hnesting : n.encode.nesting ≤ nestingLimit) :
    NamespaceDecl.decoder.ofText n.encode.pretty = .ok n ↔ ∀ t ∈ n.types, t.WellFormed := by
  constructor
  · intro h
    exact NamespaceDecl.yields_decoder.of_ofText h
  · intro hn
    exact ofText_pretty hnesting n.numbers_encode ((n.reads_encode hn).self .inText)

end ControllerCompanion
