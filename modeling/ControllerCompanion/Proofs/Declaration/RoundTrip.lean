import ControllerCompanion.Declaration.Decoding
import ControllerCompanion.Declaration.Encoding
import ControllerCompanion.Proofs.Declaration.Types
import ControllerCompanion.Proofs.Decoder.Written
import ControllerCompanion.Proofs.TypeRef.RoundTrip

set_option autoImplicit false

/-! # Reading declarations back

What a tree of declarations is written as is decoded to the tree again, in whatever order the
members of its objects stand. -/

namespace ControllerCompanion

open Json Decoder Decoder.Record

/-! ## Leaves -/

theorem TypeRef.WellFormed.reads_encode {t : TypeRef} (h : t.WellFormed) :
    Reads typeRef t.encode t := by
  intro w hw st
  cases hw
  show ((TypeRef.parse t.text).mapError Mismatch.invalidTypeRef).mapError Problem.mismatch = .ok t
  rw [h.parse_text]
  rfl

theorem Modifier.reads_encodeList (ms : List Modifier) :
    Reads (list Modifier.decoder) (Modifier.encodeList ms) ms :=
  reads_list fun m _ => reads_choice (by cases m <;> rfl)

/-! ## Expressions and statements -/

theorem Expr.encodeList_eq_map (es : List Expr) : Expr.encodeList es = es.map Expr.encode := by
  induction es with
  | nil => rfl
  | cons e es ih => rw [Expr.encodeList, ih, List.map_cons]

/-- A list of expressions is read by a decoder that reads what is no higher than the list. -/
theorem Expr.reads_encodeList {d : Decoder Expr} {depth : Nat}
    (hd : ∀ e : Expr, (∀ t ∈ e.types, t.WellFormed) → e.encode.source.height ≤ depth →
      Reads d e.encode e)
    {es : List Expr} (hes : ∀ t ∈ Expr.typesList es, t.WellFormed)
    (hdepth : (Json.array (Expr.encodeList es)).source.height ≤ depth) :
    Reads (list d) (.array (Expr.encodeList es)) es := by
  rw [Expr.encodeList_eq_map] at hdepth ⊢
  refine reads_list fun e he => hd e (fun t ht => hes t ?_) ?_
  · rw [Expr.typesList_eq_flatMap]
    exact List.mem_flatMap.2 ⟨e, he, ht⟩
  · have hlt := height_lt_of_mem_items (List.mem_map_of_mem (f := Expr.encode) he)
    omega

theorem Expr.reads_decoderUpTo {e : Expr} (he : ∀ t ∈ e.types, t.WellFormed) {depth : Nat}
    (hdepth : e.encode.source.height ≤ depth) : Reads (Expr.decoderUpTo depth) e.encode e := by
  induction depth generalizing e with
  | zero => exact absurd (height_pos e.encode) (by omega)
  | succ depth ih =>
      -- what stands in the object of an expression is less high
      have hbelow : ∀ {ms : List (String × Json)} (key : String) {v : Json},
          e.encode = .object ms → (key, v) ∈ ms → v.source.height ≤ depth := by
        intro ms key v hms hmem
        have hlt := height_lt_of_mem_members hmem
        rw [← hms] at hlt
        omega
      cases e with
      | ident name =>
          refine reads_internallyTagged rfl (by simp) (reads_record (by simp) ?_)
          exact .and (.pure _) (.field rfl (reads_string name))
      | stringLiteral value =>
          refine reads_internallyTagged rfl (by simp) (reads_record (by simp) ?_)
          exact .and (.pure _) (.field rfl (reads_string value))
      | memberAccess target member =>
          have htarget := ih (e := target) he (hbelow "target" rfl (by simp))
          refine reads_internallyTagged rfl (by simp) (reads_record (by simp) ?_)
          exact .and (.and (.pure _) (.field rfl htarget)) (.field rfl (reads_string member))
      | invocation target args =>
          obtain ⟨htypes, hargs⟩ := List.forall_mem_append.1 he
          have htarget := ih htypes (hbelow "target" rfl (by simp))
          have hlist := Expr.reads_encodeList (fun _ => ih) hargs (hbelow "args" rfl (by simp))
          refine reads_internallyTagged rfl (by simp) (reads_record (by simp) ?_)
          exact .and (.and (.pure _) (.field rfl htarget)) (.field rfl hlist)
      | objectCreation type args =>
          obtain ⟨htype, hargs⟩ := List.forall_mem_cons.1 he
          have hlist := Expr.reads_encodeList (fun _ => ih) hargs (hbelow "args" rfl (by simp))
          refine reads_internallyTagged rfl (by simp) (reads_record (by simp) ?_)
          exact .and (.and (.pure _) (.field rfl htype.reads_encode)) (.field rfl hlist)
      | asType expr type =>
          obtain ⟨htypes, htype⟩ := List.forall_mem_append.1 he
          have hexpr := ih htypes (hbelow "expr" rfl (by simp))
          have htype := (List.forall_mem_singleton.1 htype).reads_encode
          refine reads_internallyTagged rfl (by simp) (reads_record (by simp) ?_)
          exact .and (.and (.pure _) (.field rfl hexpr)) (.field rfl htype)

theorem Expr.reads_encode {e : Expr} (he : ∀ t ∈ e.types, t.WellFormed) :
    Reads Expr.decoder e.encode e :=
  fun w hw st => Expr.reads_decoderUpTo he hw.height_le w hw st

/-- An expression is written as an object. -/
theorem Expr.encode_ne_null (e : Expr) : e.encode ≠ .null := by
  cases e <;> simp [Expr.encode]

theorem Stmt.reads_encode {s : Stmt} (hs : ∀ t ∈ s.types, t.WellFormed) :
    Reads Stmt.decoder s.encode s := by
  cases s with
  | declare name init =>
      refine reads_internallyTagged rfl (by simp) (reads_record (by simp) ?_)
      exact .and (.and (.pure _) (.field rfl (reads_string name)))
        (.field rfl (Expr.reads_encode hs))
  | expression expr =>
      refine reads_internallyTagged rfl (by simp) (reads_record (by simp) ?_)
      exact .and (.pure _) (.field rfl (Expr.reads_encode hs))
  | result expr =>
      refine reads_internallyTagged rfl (by simp) (reads_record (by simp) ?_)
      exact .and (.pure _) (.field rfl (Expr.reads_encode hs))

theorem Stmt.reads_encodeList {body : List Stmt}
    (hbody : ∀ t ∈ body.flatMap Stmt.types, t.WellFormed) :
    Reads (list Stmt.decoder) (Stmt.encodeList body) body :=
  reads_list fun s hs => Stmt.reads_encode (List.forall_mem_flatMap.1 hbody s hs)

/-! ## Parts of members -/

theorem Attribute.reads_encode {a : Attribute} (ha : ∀ t ∈ a.types, t.WellFormed) :
    Reads Attribute.decoder a.encode a := by
  obtain ⟨name, args⟩ := a
  have hkeys := (keys_memberIfAny_sublist "args" Expr.encode args).cons_cons "name"
  refine reads_record (hkeys.nodup (by simp)) ?_
  exact .and (.and (.pure _) (.field rfl (reads_string name)))
    (.ifAny _ rfl fun e he => Expr.reads_encode (List.forall_mem_flatMap.1 ha e he))

theorem Attribute.reads_list {as : List Attribute}
    (has : ∀ t ∈ as.flatMap Attribute.types, t.WellFormed) :
    ∀ a ∈ as, Reads Attribute.decoder a.encode a :=
  fun a ha => Attribute.reads_encode (List.forall_mem_flatMap.1 has a ha)

theorem Parameter.reads_encode {p : Parameter} (hp : p.type.WellFormed) :
    Reads Parameter.decoder p.encode p := by
  obtain ⟨name, type⟩ := p
  refine reads_record (by simp) ?_
  exact .and (.and (.pure _) (.field rfl (reads_string name))) (.field rfl hp.reads_encode)

theorem Parameter.reads_encodeList {ps : List Parameter}
    (hps : ∀ t ∈ ps.map Parameter.type, t.WellFormed) :
    Reads (list Parameter.decoder) (.array (ps.map Parameter.encode)) ps :=
  reads_list fun _ hp => Parameter.reads_encode (hps _ (List.mem_map_of_mem hp))

theorem FieldDecl.keys_encodeMembers (f : FieldDecl) :
    (f.encodeMembers.map Prod.fst).Sublist ["name", "ty", "modifiers", "initializer"] :=
  (List.Sublist.refl ["name", "ty", "modifiers"]).append
    (keys_memberIfSome_sublist "initializer" Expr.encode f.initializer)

theorem FieldDecl.reads_encodeMembers {f : FieldDecl} (hf : ∀ t ∈ f.types, t.WellFormed) :
    Reads FieldDecl.decoder (.object f.encodeMembers) f := by
  refine reads_record (f.keys_encodeMembers.nodup (by simp)) ?_
  obtain ⟨name, type, modifiers, initializer⟩ := f
  obtain ⟨htype, hinitializer⟩ := List.forall_mem_cons.1 hf
  refine .and (.and (.and (.and (.pure _) (.field rfl (reads_string name)))
    (.field rfl htype.reads_encode)) (.field rfl (Modifier.reads_encodeList modifiers))) ?_
  refine .ifSome _ rfl Expr.encode_ne_null fun e he => ?_
  exact Expr.reads_encode (List.forall_mem_flatMap.1 hinitializer e (Option.mem_toList.2 he))

theorem PropertyDecl.keys_encodeMembers (p : PropertyDecl) :
    p.encodeMembers.map Prod.fst = ["name", "ty", "modifiers", "getter"] := rfl

theorem PropertyDecl.reads_encodeMembers {p : PropertyDecl} (hp : ∀ t ∈ p.types, t.WellFormed) :
    Reads PropertyDecl.decoder (.object p.encodeMembers) p := by
  refine reads_record (by simp [p.keys_encodeMembers]) ?_
  obtain ⟨name, type, modifiers, getter⟩ := p
  obtain ⟨htype, hgetter⟩ := List.forall_mem_cons.1 hp
  exact .and (.and (.and (.and (.pure _) (.field rfl (reads_string name)))
    (.field rfl htype.reads_encode)) (.field rfl (Modifier.reads_encodeList modifiers)))
    (.field rfl (Expr.reads_encode hgetter))

theorem ConstructorInitializer.reads_encode {i : ConstructorInitializer}
    (hi : ∀ t ∈ i.types, t.WellFormed) : Reads ConstructorInitializer.decoder i.encode i := by
  obtain ⟨args⟩ := i
  refine reads_adjacentlyTagged (by simp) rfl fun w hw st => ?_
  have hargs : Reads (list Expr.decoder) (.array (args.map Expr.encode)) args :=
    reads_list fun e he => Expr.reads_encode (List.forall_mem_flatMap.1 hi e he)
  rw [hargs w hw st]
  rfl

theorem ConstructorInitializer.encode_ne_null (i : ConstructorInitializer) : i.encode ≠ .null := by
  cases i
  simp [ConstructorInitializer.encode]

theorem ConstructorDecl.keys_encodeMembers (c : ConstructorDecl) :
    (c.encodeMembers.map Prod.fst).Sublist
      ["class_name", "modifiers", "parameters", "initializer", "body", "attributes"] := by
  rw [encodeMembers, List.map_append, List.map_append, List.map_append]
  exact (((List.Sublist.refl ["class_name", "modifiers", "parameters"]).append
    (keys_memberIfSome_sublist "initializer" ConstructorInitializer.encode c.initializer)).append
    (List.Sublist.refl ["body"])).append
    (keys_memberIfAny_sublist "attributes" Attribute.encode c.attributes)

theorem ConstructorDecl.reads_encodeMembers {c : ConstructorDecl}
    (hc : ∀ t ∈ c.types, t.WellFormed) :
    Reads ConstructorDecl.decoder (.object c.encodeMembers) c := by
  refine reads_record (c.keys_encodeMembers.nodup (by simp)) ?_
  obtain ⟨className, modifiers, parameters, initializer, body, attributes⟩ := c
  obtain ⟨hc, hattributes⟩ := List.forall_mem_append.1 hc
  obtain ⟨hc, hbody⟩ := List.forall_mem_append.1 hc
  obtain ⟨hparameters, hinitializer⟩ := List.forall_mem_append.1 hc
  have hinitializer : ∀ i ∈ initializer, Reads ConstructorInitializer.decoder i.encode i :=
    fun i hi => ConstructorInitializer.reads_encode
      (List.forall_mem_flatMap.1 hinitializer i (Option.mem_toList.2 hi))
  refine .and (.and (.and (.and (.and (.and (.pure _) (.field rfl (reads_string className)))
    (.field rfl (Modifier.reads_encodeList modifiers)))
    (.field rfl (Parameter.reads_encodeList hparameters)))
    (.ifSome _ ?_ ConstructorInitializer.encode_ne_null hinitializer))
    (.field ?_ (Stmt.reads_encodeList hbody)))
    (.ifAny _ ?_ (Attribute.reads_list hattributes))
  all_goals simp [encodeMembers, List.lookup_append, List.lookup_cons, lookup_memberIfAny_of_ne,
    lookup_memberIfSome_of_ne]

theorem MethodDecl.keys_encodeMembers (m : MethodDecl) :
    (m.encodeMembers.map Prod.fst).Sublist
      ["name", "return_type", "modifiers", "parameters", "body", "attributes"] :=
  (List.Sublist.refl ["name", "return_type", "modifiers", "parameters", "body"]).append
    (keys_memberIfAny_sublist "attributes" Attribute.encode m.attributes)

theorem MethodDecl.reads_encodeMembers {m : MethodDecl} (hm : ∀ t ∈ m.types, t.WellFormed) :
    Reads MethodDecl.decoder (.object m.encodeMembers) m := by
  refine reads_record (m.keys_encodeMembers.nodup (by simp)) ?_
  obtain ⟨name, returnType, modifiers, parameters, body, attributes⟩ := m
  obtain ⟨hm, hattributes⟩ := List.forall_mem_append.1 hm
  obtain ⟨hm, hbody⟩ := List.forall_mem_append.1 hm
  obtain ⟨hreturn, hparameters⟩ := List.forall_mem_cons.1 hm
  have hread : Reads (nullable (list Stmt.decoder)) (Json.nullable Stmt.encodeList body) body := by
    refine reads_nullable_encode (by simp [Stmt.encodeList]) fun stmts hstmts => ?_
    obtain rfl := Option.mem_def.1 hstmts
    exact Stmt.reads_encodeList hbody
  exact .and (.and (.and (.and (.and (.and (.pure _) (.field rfl (reads_string name)))
    (.field rfl hreturn.reads_encode)) (.field rfl (Modifier.reads_encodeList modifiers)))
    (.field rfl (Parameter.reads_encodeList hparameters))) (.field rfl hread))
    (.ifAny _ rfl (Attribute.reads_list hattributes))

/-! ## Classes -/

theorem Member.encodeList_eq_map (ms : List Member) :
    Member.encodeList ms = ms.map Member.encode := by
  induction ms with
  | nil => rfl
  | cons m ms ih => rw [Member.encodeList, ih, List.map_cons]

/-- The keys of a class, of which some may be left out. -/
theorem ClassDecl.keys_encodeMembers (c : ClassDecl) :
    (c.encodeMembers.map Prod.fst).Sublist
      ["name", "modifiers", "type_parameters", "base_types", "attributes", "members"] := by
  obtain ⟨name, modifiers, typeParameters, baseTypes, attributes, members⟩ := c
  rw [encodeMembers, List.map_append, List.map_append, List.map_append, List.map_append]
  exact ((((List.Sublist.refl ["name", "modifiers"]).append
    (keys_memberIfAny_sublist "type_parameters" Json.string typeParameters)).append
    (keys_memberIfAny_sublist "base_types" TypeRef.encode baseTypes)).append
    (keys_memberIfAny_sublist "attributes" Attribute.encode attributes)).append
    (List.Sublist.refl ["members"])

/-- A class is read by a decoder that reads its members. -/
theorem ClassDecl.reads_decoderWith {c : ClassDecl} {member : Decoder Member}
    (hc : ∀ t ∈ c.types, t.WellFormed) (hmembers : ∀ m ∈ c.members, Reads member m.encode m) :
    Reads (ClassDecl.decoderWith member) (.object c.encodeMembers) c := by
  refine reads_record (c.keys_encodeMembers.nodup (by simp)) ?_
  obtain ⟨name, modifiers, typeParameters, baseTypes, attributes, members⟩ := c
  rw [ClassDecl.types_eq] at hc
  obtain ⟨hc, -⟩ := List.forall_mem_append.1 hc
  obtain ⟨hbases, hattributes⟩ := List.forall_mem_append.1 hc
  have hlist : Reads (list member) (.array (Member.encodeList members)) members := by
    rw [Member.encodeList_eq_map]
    exact reads_list hmembers
  refine .and (.and (.and (.and (.and (.and (.pure _) (.field rfl (reads_string name)))
    (.field rfl (Modifier.reads_encodeList modifiers)))
    (.ifAny _ ?_ fun s _ => reads_string s))
    (.ifAny _ ?_ fun t ht => (hbases t ht).reads_encode))
    (.ifAny _ ?_ (Attribute.reads_list hattributes)))
    (.field ?_ hlist)
  all_goals simp [encodeMembers, List.lookup_append, List.lookup_cons, lookup_memberIfAny_of_ne]

theorem Decoder.Reads.asMember {α : Type} {make : α → Member} {d : Decoder α} {v : Json} {a : α}
    (h : Reads d v a) : Reads (asMember make d) v (make a) := by
  intro w hw st
  rw [Decoder.asMember, h w hw st]
  rfl

/-- The tag of a member is none of its other keys. -/
theorem not_mem_keys {ms : List (String × Json)} {names : List String} {key : String}
    (hkeys : (ms.map Prod.fst).Sublist names) (hkey : key ∉ names) : key ∉ ms.map Prod.fst :=
  fun hmem => hkey (hkeys.subset hmem)

theorem ClassDecl.forall_types_of_mem (c : ClassDecl) {p : TypeRef → Prop}
    (hc : ∀ t ∈ c.types, p t) : ∀ m ∈ c.members, ∀ t ∈ m.types, p t := by
  intro m hm t ht
  refine hc t ?_
  rw [ClassDecl.types_eq]
  exact List.mem_append_right _ (List.mem_flatMap.2 ⟨m, hm, ht⟩)

/-- What stands in the list of members is less high than the object that holds the list. -/
theorem ClassDecl.height_lt {c : ClassDecl} {m : Member} (hm : m ∈ c.members) :
    m.encode.source.height < (Member.nestedClass c).encode.source.height := by
  obtain ⟨name, modifiers, typeParameters, baseTypes, attributes, members⟩ := c
  have hitem := height_lt_of_mem_items (List.mem_map_of_mem (f := Member.encode) hm)
  have hlist : ("members", Json.array (members.map Member.encode)) ∈
      ("member", Json.string "class") :: encodeMembers
        ⟨name, modifiers, typeParameters, baseTypes, attributes, members⟩ := by
    simp [encodeMembers, Member.encodeList_eq_map]
  exact Nat.lt_trans hitem (height_lt_of_mem_members hlist)

theorem Member.reads_decoderUpTo {m : Member} (hm : ∀ t ∈ m.types, t.WellFormed) {depth : Nat}
    (hdepth : m.encode.source.height ≤ depth) : Reads (Member.decoderUpTo depth) m.encode m := by
  induction depth generalizing m with
  | zero => exact absurd (height_pos m.encode) (by omega)
  | succ depth ih =>
      cases m with
      | field f =>
          exact reads_internallyTagged rfl (not_mem_keys f.keys_encodeMembers (by simp))
            (FieldDecl.reads_encodeMembers hm).asMember
      | property p =>
          exact reads_internallyTagged rfl (by simp [p.keys_encodeMembers])
            (PropertyDecl.reads_encodeMembers hm).asMember
      | constructor c =>
          exact reads_internallyTagged rfl (not_mem_keys c.keys_encodeMembers (by simp))
            (ConstructorDecl.reads_encodeMembers hm).asMember
      | method m =>
          exact reads_internallyTagged rfl (not_mem_keys m.keys_encodeMembers (by simp))
            (MethodDecl.reads_encodeMembers hm).asMember
      | nestedClass c =>
          have hmembers : ∀ m ∈ c.members, Reads (Member.decoderUpTo depth) m.encode m := by
            intro m hmem
            have hlt := ClassDecl.height_lt hmem
            exact ih (c.forall_types_of_mem hm m hmem) (by omega)
          exact reads_internallyTagged rfl (not_mem_keys c.keys_encodeMembers (by simp))
            (ClassDecl.reads_decoderWith hm hmembers).asMember

theorem Member.reads_encode {m : Member} (hm : ∀ t ∈ m.types, t.WellFormed) :
    Reads Member.decoder m.encode m :=
  fun w hw st => Member.reads_decoderUpTo hm hw.height_le w hw st

theorem ClassDecl.reads_encode {c : ClassDecl} (hc : ∀ t ∈ c.types, t.WellFormed) :
    Reads ClassDecl.decoder c.encode c :=
  ClassDecl.reads_decoderWith hc fun m hm => Member.reads_encode (c.forall_types_of_mem hc m hm)

theorem NamespaceDecl.reads_encode {n : NamespaceDecl} (hn : ∀ t ∈ n.types, t.WellFormed) :
    Reads NamespaceDecl.decoder n.encode n := by
  obtain ⟨name, classes⟩ := n
  have hclasses : Reads (list ClassDecl.decoder) (.array (classes.map ClassDecl.encode)) classes :=
    reads_list fun c hc => ClassDecl.reads_encode (List.forall_mem_flatMap.1 hn c hc)
  refine reads_record (by simp) ?_
  exact .and (.and (.pure _) (.field rfl (reads_string name))) (.field rfl hclasses)

end ControllerCompanion
