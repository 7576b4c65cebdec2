import ControllerCompanion.Declaration.Builder
import ControllerCompanion.Proofs.Declaration.Types

set_option autoImplicit false

/-! # The types of what is built

Each step that builds a class adds the types of what it adds. Steps that add members add them
behind the others; a base type or an attribute stands before the members. -/

namespace ControllerCompanion

/-- The expression of a path holds no types. -/
@[simp] theorem Expr.types_path (dotted : String) : (Expr.path dotted).types = [] := by
  unfold Expr.path
  split
  · rfl
  · refine List.foldlRecOn (motive := fun e : Expr => e.types = []) _ _ rfl ?_
    intro target htarget part _
    exact htarget

/-- Identifiers hold no types. -/
theorem Expr.types_of_idents {α : Type} (name : α → String) (as : List α) :
    Expr.typesList (as.map fun a => .ident (name a)) = [] := by
  rw [Expr.typesList_eq_flatMap, List.flatMap_map]
  exact List.flatMap_eq_nil_iff.2 fun _ _ => rfl

namespace ClassDecl

@[simp] theorem types_empty (name : String) (typeParameters : List String)
    (modifiers : List Modifier) : (empty name typeParameters modifiers).types = [] := rfl

theorem mem_types_addAttributes {c : ClassDecl} {attributes : List Attribute} {t : TypeRef} :
    t ∈ (c.addAttributes attributes).types ↔
      t ∈ c.types ∨ t ∈ attributes.flatMap Attribute.types := by
  rw [types_eq, types_eq]
  simp only [addAttributes, List.mem_append, List.flatMap_append]
  grind

theorem mem_types_addBaseTypes {c : ClassDecl} {types : List TypeRef} {t : TypeRef} :
    t ∈ (c.addBaseTypes types).types ↔ t ∈ c.types ∨ t ∈ types := by
  rw [types_eq, types_eq]
  simp only [addBaseTypes, List.mem_append]
  grind

@[simp] theorem types_addMembers (c : ClassDecl) (members : List Member) :
    (c.addMembers members).types = c.types ++ members.flatMap Member.types := by
  rw [types_eq, types_eq]
  simp [addMembers]

@[simp] theorem types_addMethods (c : ClassDecl) (ms : List MethodDecl) :
    (c.addMethods ms).types = c.types ++ ms.flatMap MethodDecl.types := by
  rw [addMethods, types_addMembers, List.flatMap_map]
  rfl

@[simp] theorem types_addClass (c nested : ClassDecl) :
    (c.addClass nested).types = c.types ++ nested.types := by
  simp [addClass, addMember, Member.types]

@[simp] theorem types_addField (c : ClassDecl) (name : String) (type : TypeRef)
    (modifiers : List Modifier) (initializer : Option Expr) :
    (c.addField name type modifiers initializer).types
      = c.types ++ type :: initializer.toList.flatMap Expr.types := by
  simp [addField, addMember, Member.types, FieldDecl.types]

@[simp] theorem types_addStringField (c : ClassDecl) (name value : String)
    (modifiers : List Modifier) :
    (c.addStringField name value modifiers).types = c.types ++ [.named "string"] := by
  simp [addStringField, Expr.types]

@[simp] theorem types_addInstanceField (c : ClassDecl) (name : String) (type : TypeRef)
    (modifiers : List Modifier) :
    (c.addInstanceField name type modifiers).types = c.types ++ [type, type] := by
  simp [addInstanceField, Expr.types, Expr.typesList]

@[simp] theorem types_addProperty (c : ClassDecl) (name : String) (type : TypeRef) (getter : Expr)
    (modifiers : List Modifier) :
    (c.addProperty name type getter modifiers).types = c.types ++ type :: getter.types := by
  simp [addProperty, addMember, Member.types, PropertyDecl.types]

@[simp] theorem types_addConstructor (c : ClassDecl) (parameters : List Parameter)
    (initializer : Option ConstructorInitializer) (modifiers : List Modifier)
    (attributes : List Attribute) :
    (c.addConstructor parameters initializer modifiers attributes).types
      = c.types ++ (parameters.map Parameter.type
        ++ initializer.toList.flatMap ConstructorInitializer.types
        ++ attributes.flatMap Attribute.types) := by
  simp [addConstructor, addMember, Member.types, ConstructorDecl.types]

end ClassDecl

end ControllerCompanion
