import ControllerCompanion.Proofs.Declaration.RoundTrip
import ControllerCompanion.Proofs.Decoder.Yields

set_option autoImplicit false

/-! # Decoded declarations

Every type that stands in a decoded tree was read from a text, so it is well formed. With the
round trip this says which trees are read back as they are, in whatever order the members of their
objects stand: those all of whose types are well formed. -/

namespace ControllerCompanion

open Decoder Decoder.Record

/-! ## Expressions and statements -/

theorem Decoder.yields_tooDeep {α : Type} (p : α → Prop) : (tooDeep (α := α)).Yields p := by
  intro st s a h
  simp [tooDeep] at h

theorem Decoder.Yields.bounded {α : Type} {d : Nat → Decoder α} {p : α → Prop}
    (hd : ∀ depth, (d depth).Yields p) : (bounded d).Yields p :=
  fun st s a h => hd s.height st s a h

theorem Expr.yields_decoderUpTo (depth : Nat) :
    (Expr.decoderUpTo depth).Yields fun e => ∀ t ∈ e.types, t.WellFormed := by
  induction depth with
  | zero => exact yields_tooDeep _
  | succ depth ih =>
      -- the arguments of an expression are read like the expression itself
      have hargs : (list (Expr.decoderUpTo depth)).Yields
          fun es => ∀ t ∈ Expr.typesList es, t.WellFormed := by
        intro st s es h t ht
        rw [Expr.typesList_eq_flatMap] at ht
        obtain ⟨e, he, ht⟩ := List.mem_flatMap.1 ht
        exact ih.list st s es h e he t ht
      refine yields_internallyTagged ?_
      simp only [List.map_cons, List.map_nil, List.forall_mem_cons]
      refine ⟨?ident, ?stringLiteral, ?memberAccess, ?invocation, ?objectCreation, ?asType,
        List.forall_mem_nil _⟩
      case ident =>
        exact yields_record (.and (.pure (by simp [Expr.types])) (.required (yields_true _)))
      case stringLiteral =>
        exact yields_record (.and (.pure (by simp [Expr.types])) (.required (yields_true _)))
      case memberAccess =>
        refine yields_record (.and (.and (.pure ?_) (.required ih)) (.required (yields_true _)))
        intro target htarget member _
        exact htarget
      case invocation =>
        refine yields_record (.and (.and (.pure ?_) (.required ih)) (.required hargs))
        intro target htarget args hargs
        exact List.forall_mem_append.2 ⟨htarget, hargs⟩
      case objectCreation =>
        refine yields_record (.and (.and (.pure ?_) (.required yields_typeRef)) (.required hargs))
        intro type htype args hargs
        exact List.forall_mem_cons.2 ⟨htype, hargs⟩
      case asType =>
        refine yields_record (.and (.and (.pure ?_) (.required ih)) (.required yields_typeRef))
        intro expr hexpr type htype
        exact List.forall_mem_append.2 ⟨hexpr, List.forall_mem_singleton.2 htype⟩

theorem Expr.yields_decoder : Expr.decoder.Yields fun e => ∀ t ∈ e.types, t.WellFormed :=
  .bounded Expr.yields_decoderUpTo

theorem Stmt.yields_decoder : Stmt.decoder.Yields fun s => ∀ t ∈ s.types, t.WellFormed := by
  refine yields_internallyTagged ?_
  simp only [List.map_cons, List.map_nil, List.forall_mem_cons]
  refine ⟨?declare, ?expression, ?result, List.forall_mem_nil _⟩
  case declare =>
    refine yields_record (.and (.and (.pure ?_) (.required (yields_true _)))
      (.required Expr.yields_decoder))
    intro name _ init hinit
    exact hinit
  case expression =>
    refine yields_record (.and (.pure ?_) (.required Expr.yields_decoder))
    intro expr hexpr
    exact hexpr
  case result =>
    refine yields_record (.and (.pure ?_) (.required Expr.yields_decoder))
    intro expr hexpr
    exact hexpr

/-! ## Parts of members -/

theorem Attribute.yields_decoder :
    Attribute.decoder.Yields fun a => ∀ t ∈ a.types, t.WellFormed := by
  refine yields_record (.and (.and (.pure ?_) (.required (yields_true _)))
    (.defaulted (by simp) Expr.yields_decoder.list))
  intro name _ args hargs
  exact List.forall_mem_flatMap.2 hargs

theorem Parameter.yields_decoder : Parameter.decoder.Yields fun p => p.type.WellFormed := by
  refine yields_record (.and (.and (.pure ?_) (.required (yields_true _)))
    (.required yields_typeRef))
  intro name _ type htype
  exact htype

theorem FieldDecl.yields_decoder :
    FieldDecl.decoder.Yields fun f => ∀ t ∈ f.types, t.WellFormed := by
  refine yields_record (.and (.and (.and (.and (.pure ?_) (.required (yields_true _)))
    (.required yields_typeRef)) (.required (yields_true _)))
    (.defaulted (by simp) Expr.yields_decoder.nullable))
  intro name _ type htype modifiers _ initializer hinitializer
  refine List.forall_mem_cons.2 ⟨htype, List.forall_mem_flatMap.2 fun e he => ?_⟩
  exact hinitializer e (Option.mem_toList.1 he)

theorem PropertyDecl.yields_decoder :
    PropertyDecl.decoder.Yields fun p => ∀ t ∈ p.types, t.WellFormed := by
  refine yields_record (.and (.and (.and (.and (.pure ?_) (.required (yields_true _)))
    (.required yields_typeRef)) (.required (yields_true _))) (.required Expr.yields_decoder))
  intro name _ type htype modifiers _ getter hgetter
  exact List.forall_mem_cons.2 ⟨htype, hgetter⟩

theorem ConstructorInitializer.yields_decoder :
    ConstructorInitializer.decoder.Yields fun i => ∀ t ∈ i.types, t.WellFormed := by
  refine yields_adjacentlyTagged ?_
  simp only [List.map_cons, List.map_nil, List.forall_mem_singleton]
  exact Expr.yields_decoder.list.map fun args hargs => List.forall_mem_flatMap.2 hargs

theorem ConstructorDecl.yields_decoder :
    ConstructorDecl.decoder.Yields fun c => ∀ t ∈ c.types, t.WellFormed := by
  refine yields_record (.and (.and (.and (.and (.and (.and (.pure ?_)
    (.required (yields_true _))) (.required (yields_true _)))
    (.required Parameter.yields_decoder.list))
    (.defaulted (by simp) ConstructorInitializer.yields_decoder.nullable))
    (.required Stmt.yields_decoder.list))
    (.defaulted (by simp) Attribute.yields_decoder.list))
  intro className _ modifiers _ parameters hparameters initializer hinitializer body hbody
    attributes hattributes
  have hinitializer : ∀ i ∈ initializer.toList, ∀ t ∈ i.types, t.WellFormed :=
    fun i hi => hinitializer i (Option.mem_toList.1 hi)
  refine List.forall_mem_append.2 ⟨List.forall_mem_append.2 ⟨List.forall_mem_append.2
    ⟨List.forall_mem_map.2 hparameters, ?_⟩, ?_⟩, ?_⟩
  · exact List.forall_mem_flatMap.2 hinitializer
  · exact List.forall_mem_flatMap.2 hbody
  · exact List.forall_mem_flatMap.2 hattributes

theorem MethodDecl.yields_decoder :
    MethodDecl.decoder.Yields fun m => ∀ t ∈ m.types, t.WellFormed := by
  refine yields_record (.and (.and (.and (.and (.and (.and (.pure ?_)
    (.required (yields_true _))) (.required yields_typeRef)) (.required (yields_true _)))
    (.required Parameter.yields_decoder.list))
    (.field ?_ Stmt.yields_decoder.list.nullable))
    (.defaulted (by simp) Attribute.yields_decoder.list))
  · intro name _ returnType hreturn modifiers _ parameters hparameters body hbody attributes
      hattributes
    refine List.forall_mem_append.2 ⟨List.forall_mem_append.2
      ⟨List.forall_mem_cons.2 ⟨hreturn, List.forall_mem_map.2 hparameters⟩, ?_⟩, ?_⟩
    · cases body with
      | none => exact List.forall_mem_nil _
      | some stmts => exact List.forall_mem_flatMap.2 (hbody stmts rfl)
    · exact List.forall_mem_flatMap.2 hattributes
  · -- a body that is absent is none
    intro named trouble body h
    cases named with
    | false => simp [absent] at h
    | true =>
        obtain rfl : none = body := by simpa [absent] using h
        simp

/-! ## Classes -/

theorem ClassDecl.yields_decoderWith {member : Decoder Member}
    (hmember : member.Yields fun m => ∀ t ∈ m.types, t.WellFormed) :
    (ClassDecl.decoderWith member).Yields fun c => ∀ t ∈ c.types, t.WellFormed := by
  refine yields_record (.and (.and (.and (.and (.and (.and (.pure ?_)
    (.required (yields_true _))) (.required (yields_true _)))
    (.defaulted trivial (yields_true _))) (.defaulted (by simp) yields_typeRef.list))
    (.defaulted (by simp) Attribute.yields_decoder.list)) (.required hmember.list))
  intro name _ modifiers _ typeParameters _ baseTypes hbases attributes hattributes members
    hmembers
  rw [ClassDecl.types_eq]
  refine List.forall_mem_append.2 ⟨List.forall_mem_append.2 ⟨hbases, ?_⟩, ?_⟩
  · exact List.forall_mem_flatMap.2 hattributes
  · exact List.forall_mem_flatMap.2 hmembers

theorem Member.yields_decoderUpTo (depth : Nat) :
    (Member.decoderUpTo depth).Yields fun m => ∀ t ∈ m.types, t.WellFormed := by
  induction depth with
  | zero => exact yields_tooDeep _
  | succ depth ih =>
      refine yields_internallyTagged ?_
      simp only [List.map_cons, List.map_nil, List.forall_mem_cons]
      refine ⟨?field, ?property, ?constructor, ?method, ?nestedClass, List.forall_mem_nil _⟩
      case field => exact FieldDecl.yields_decoder.map fun _ h => h
      case property => exact PropertyDecl.yields_decoder.map fun _ h => h
      case constructor => exact ConstructorDecl.yields_decoder.map fun _ h => h
      case method => exact MethodDecl.yields_decoder.map fun _ h => h
      case nestedClass => exact (ClassDecl.yields_decoderWith ih).map fun _ h => h

theorem ClassDecl.yields_decoder :
    ClassDecl.decoder.Yields fun c => ∀ t ∈ c.types, t.WellFormed :=
  ClassDecl.yields_decoderWith (.bounded Member.yields_decoderUpTo)

theorem NamespaceDecl.yields_decoder :
    NamespaceDecl.decoder.Yields fun n => ∀ t ∈ n.types, t.WellFormed := by
  refine yields_record (.and (.and (.pure ?_) (.required (yields_true _)))
    (.required ClassDecl.yields_decoder.list))
  intro name _ classes hclasses
  exact List.forall_mem_flatMap.2 hclasses

/-! ## What is read back -/

/-- A namespace whose types are well formed is read back. -/
theorem NamespaceDecl.ofJson_encode {n : NamespaceDecl} (hn : ∀ t ∈ n.types, t.WellFormed) :
    NamespaceDecl.decoder.ofJson n.encode = .ok n :=
  (n.reads_encode hn).self .whole

/-- What is read back has well-formed types only. -/
theorem NamespaceDecl.wellFormed_of_ofJson {n : NamespaceDecl} {v : Json}
    (h : NamespaceDecl.decoder.ofJson v = .ok n) : ∀ t ∈ n.types, t.WellFormed :=
  NamespaceDecl.yields_decoder .whole v.source n h

/-- **A tree of declarations is read back as it is exactly if its types are well formed.** Nothing
else of it can get lost: not the members' kinds nor their order, not an initializer or a body that
is not there, nor a list that is left out because it is empty. It does not matter in which order the
members of the objects are, so a tag may stand behind the fields that it tells about, nor whether
the value is read from a text, is there as a whole, or was set aside until a tag came up. -/
theorem NamespaceDecl.ofJson_encode_eq_ok_iff (n : NamespaceDecl) :
    (NamespaceDecl.decoder.ofJson n.encode = .ok n ↔ ∀ t ∈ n.types, t.WellFormed) ∧
      ∀ v, n.encode.Reordered v → ∀ st,
        (NamespaceDecl.decoder st v.source = .ok n ↔ ∀ t ∈ n.types, t.WellFormed) := by
  have hread : ∀ v, n.encode.Reordered v → ∀ st,
      (NamespaceDecl.decoder st v.source = .ok n ↔ ∀ t ∈ n.types, t.WellFormed) :=
    fun v hv st => ⟨NamespaceDecl.yields_decoder st v.source n, fun hn => n.reads_encode hn v hv st⟩
  exact ⟨hread n.encode (.refl _) .whole, hread⟩

/-- A namespace with a class that hands a text on to its base class. -/
def pagesNamespace : NamespaceDecl :=
  ⟨"App", [⟨"Pages", [.isPublic], [], [⟨"Base", [⟨"int", []⟩]⟩], [],
    [.constructor ⟨"Pages", [.isPublic], [], some (.base [.stringLiteral "pages"]), [], []⟩]⟩]⟩

/-- The same, with the members of every object backwards: the arguments stand before the tag beside
    them, and the tags of the constructor and of the literal stand behind all fields. -/
def pagesBackwards : Json :=
  .object [
    ("classes", .array [.object [
      ("members", .array [.object [
        ("body", .array []),
        ("initializer", .object [
          ("args", .array [.object [
            ("value", .string "pages"), ("kind", .string "string_literal")]]),
          ("kind", .string "base")]),
        ("parameters", .array []),
        ("modifiers", .array [.string "public"]),
        ("class_name", .string "Pages"),
        ("member", .string "constructor")]]),
      ("base_types", .array [.string "Base<int>"]),
      ("modifiers", .array [.string "public"]),
      ("name", .string "Pages")]]),
    ("name", .string "App")]

/-- A namespace is read with the contents before their tags and the tags behind the fields. -/
theorem NamespaceDecl.decoder_pagesBackwards :
    (∀ t ∈ pagesNamespace.types, t.WellFormed) ∧ pagesNamespace.encode.Reordered pagesBackwards ∧
      ∀ st, NamespaceDecl.decoder st pagesBackwards.source = .ok pagesNamespace := by
  have htypes : ∀ t ∈ pagesNamespace.types, t.WellFormed := by
    have hparse : TypeRef.parse "Base<int>" = .ok ⟨"Base", [⟨"int", []⟩]⟩ :=
      eq_ok_of_toOption (by decide +kernel)
    exact List.forall_mem_singleton.2 (TypeRef.wellFormed_of_parse hparse)
  have hreordered : pagesNamespace.encode.Reordered pagesBackwards := by
    -- each object on the way down to the literal, with the others beside it as they are
    refine .object (.cons (.refl _) (.cons (.array (.cons ?pages .nil)) .nil)) (.swap ..)
    refine .object (.cons (.refl _) (.cons (.refl _) (.cons (.refl _)
      (.cons (.array (.cons ?constructor .nil)) .nil)))) (List.reverse_perm _).symm
    refine .object (.cons (.refl _) (.cons (.refl _) (.cons (.refl _) (.cons (.refl _)
      (.cons ?initializer (.refl _)))))) (List.reverse_perm _).symm
    refine .object (.cons (.refl _) (.cons (.array (.cons ?literal .nil)) .nil)) (.swap ..)
    exact .object (.refl _) (.swap ..)
  exact ⟨htypes, hreordered, fun st =>
    ((pagesNamespace.ofJson_encode_eq_ok_iff).2 pagesBackwards hreordered st).2 htypes⟩

end ControllerCompanion
