set_option autoImplicit false

/-! # Type references

A reference to a type by name, with the references it is applied to. Array and nullable suffixes
and qualifying dots are kept in the name; only the argument list is taken apart. -/

namespace ControllerCompanion

/-- A named type with its type arguments. -/
structure TypeRef where
  name : String
  args : List TypeRef
  deriving Repr, Inhabited

namespace TypeRef

/-- A type without arguments. -/
def named (name : String) : TypeRef := ⟨name, []⟩

/-- Whether the type has arguments. -/
def isGeneric (t : TypeRef) : Bool := !t.args.isEmpty

/-! ## Equality -/

mutual

/-- Whether two references are the same tree. -/
def decEq : (a b : TypeRef) → Decidable (a = b)
  | ⟨n, as⟩, ⟨m, bs⟩ =>
    if hn : n = m then
      match decEqList as bs with
      | isTrue ha => isTrue (by rw [hn, ha])
      | isFalse ha => isFalse (by intro h; injection h; contradiction)
    else isFalse (by intro h; injection h; contradiction)

/-- Whether two argument lists are the same. -/
def decEqList : (as bs : List TypeRef) → Decidable (as = bs)
  | [], [] => isTrue rfl
  | [], _ :: _ => isFalse (by intro h; cases h)
  | _ :: _, [] => isFalse (by intro h; cases h)
  | a :: as, b :: bs =>
    match decEq a b, decEqList as bs with
    | isTrue h, isTrue hs => isTrue (by rw [h, hs])
    | isFalse h, _ => isFalse (by intro e; injection e; contradiction)
    | _, isFalse hs => isFalse (by intro e; injection e; contradiction)

end

instance : DecidableEq TypeRef := decEq

end TypeRef

end ControllerCompanion
