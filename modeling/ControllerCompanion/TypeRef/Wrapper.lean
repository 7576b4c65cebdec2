import ControllerCompanion.TypeRef.Basic

set_option autoImplicit false

/-! # Wrapper types

A wrapper is a type with one argument under one of the given names, such as the type of an
asynchronous result. Names are compared without the alias of the global namespace, and a name may
be qualified less than the other one. -/

namespace ControllerCompanion.TypeRef

/-- The name without the alias of the global namespace that may stand before it. -/
def withoutGlobal (name : List Char) : List Char :=
  if "global::".toList.isPrefixOf name then name.drop "global::".length else name

/-- Whether `short` is `long` or what follows one of its dots. -/
def isDottedEnd (short long : List Char) : Bool :=
  short == long || ('.' :: short).isSuffixOf long

/-- Whether two names can mean the same type: one is a dotted end of the other. -/
def sameName (a b : String) : Bool :=
  let a := withoutGlobal a.toList
  let b := withoutGlobal b.toList
  isDottedEnd a b || isDottedEnd b a

/-- The argument of a type that is one of `wrappers` applied to exactly one argument. -/
def unwrapSingle (wrappers : List String) (t : TypeRef) : Option TypeRef :=
  match t.args with
  | [inner] => if wrappers.any (sameName t.name) then some inner else none
  | _ => none

end ControllerCompanion.TypeRef
