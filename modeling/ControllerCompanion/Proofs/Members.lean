import ControllerCompanion.Declaration.Builder
import ControllerCompanion.Proofs.Keyed

set_option autoImplicit false

/-! # The members of a class

What a class holds after members were added, and what is found in it by name. If the names of the
members are distinct, every member is found (`field?_of_mem`, `nestedClass?_of_mem`). A field with
an instance of a nested class leads into that class (`instanceClass?`, `follow`). -/

namespace ControllerCompanion

namespace ClassDecl

/-! ## Adding members -/

@[simp] theorem addMembers_nil (c : ClassDecl) : c.addMembers [] = c := by
  cases c
  simp [addMembers]

@[simp] theorem addMembers_addMembers (c : ClassDecl) (first second : List Member) :
    (c.addMembers first).addMembers second = c.addMembers (first ++ second) := by
  simp [addMembers]

@[simp] theorem memberNames_addMembers (c : ClassDecl) (members : List Member) :
    (c.addMembers members).memberNames = c.memberNames ++ members.map Member.name := by
  simp [addMembers, memberNames]

/-! ## Finding members -/

theorem mem_fields {c : ClassDecl} {f : FieldDecl} : f ∈ c.fields ↔ .field f ∈ c.members := by
  simp only [fields, List.mem_filterMap]
  constructor
  · rintro ⟨m, hm, hf⟩
    cases m <;> cases hf
    exact hm
  · exact fun hf => ⟨.field f, hf, rfl⟩

theorem mem_nestedClasses {c d : ClassDecl} :
    d ∈ c.nestedClasses ↔ .nestedClass d ∈ c.members := by
  simp only [nestedClasses, List.mem_filterMap]
  constructor
  · rintro ⟨m, hm, hd⟩
    cases m <;> cases hd
    exact hm
  · exact fun hd => ⟨.nestedClass d, hd, rfl⟩

/-- The members of one kind, by their names, are some of all members. -/
theorem names_sublist {α : Type} {pick : Member → Option α} {name : α → String}
    (hname : ∀ m a, pick m = some a → name a = m.name) (members : List Member) :
    ((members.filterMap pick).map name).Sublist (members.map Member.name) := by
  induction members with
  | nil => exact .slnil
  | cons m rest ih =>
      cases h : pick m with
      | none =>
          rw [List.filterMap_cons_none h]
          exact ih.cons m.name
      | some a =>
          rw [List.filterMap_cons_some h, List.map_cons, List.map_cons, hname m a h]
          exact ih.cons_cons m.name

theorem field?_of_mem {c : ClassDecl} {f : FieldDecl} (hnodup : c.memberNames.Nodup)
    (hf : .field f ∈ c.members) : c.field? f.name = some f := by
  have hnames : (c.fields.map FieldDecl.name).Sublist c.memberNames :=
    names_sublist (by rintro (_ | _ | _ | _ | _) a h <;> cases h; rfl) c.members
  exact Keyed.find?_eq_some_of_mem (hnodup.sublist hnames) (mem_fields.2 hf)

theorem nestedClass?_of_mem {c d : ClassDecl} (hnodup : c.memberNames.Nodup)
    (hd : .nestedClass d ∈ c.members) : c.nestedClass? d.name = some d := by
  have hnames : (c.nestedClasses.map ClassDecl.name).Sublist c.memberNames :=
    names_sublist (by rintro (_ | _ | _ | _ | _) a h <;> cases h; rfl) c.members
  exact Keyed.find?_eq_some_of_mem (hnodup.sublist hnames) (mem_nestedClasses.2 hd)

/-! ## Fields with a text -/

/-- The fields that hold a text. -/
def stringFields (c : ClassDecl) : List FieldDecl := c.fields.filter (·.type = .named "string")

/-! ## Following instances -/

/-- The nested class that a field holds an instance of: the field is set to a new object of its
    type, and the type is the name of the class. -/
def instanceClass? (c : ClassDecl) (name : String) : Option ClassDecl :=
  match c.field? name with
  | some ⟨_, type, _, some (.objectCreation created [])⟩ =>
    if created = type ∧ type.args = [] then c.nestedClass? type.name else none
  | _ => none

/-- The class that a chain of such fields leads to. -/
def follow : ClassDecl → List String → Option ClassDecl
  | c, [] => some c
  | c, name :: names => (c.instanceClass? name).bind (·.follow names)

theorem follow_append (c : ClassDecl) (names names' : List String) :
    c.follow (names ++ names') = (c.follow names).bind (·.follow names') := by
  induction names generalizing c with
  | nil => rfl
  | cons name names ih =>
      simp only [List.cons_append, follow]
      cases c.instanceClass? name with
      | none => rfl
      | some d => exact ih d

/-- A field with a new object of a nested class leads into it. -/
theorem instanceClass?_of_mem {c d : ClassDecl} {name : String} {modifiers : List Modifier}
    (hnodup : c.memberNames.Nodup) (hd : .nestedClass d ∈ c.members)
    (hf : .field ⟨name, .named d.name, modifiers, some (.objectCreation (.named d.name) [])⟩
      ∈ c.members) :
    c.instanceClass? name = some d := by
  have hfield := field?_of_mem hnodup hf
  have hclass := nestedClass?_of_mem hnodup hd
  simp only at hfield
  simpa [instanceClass?, hfield, TypeRef.named] using hclass

end ClassDecl

end ControllerCompanion
