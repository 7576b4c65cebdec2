import ControllerCompanion.Decoder.Record

set_option autoImplicit false

/-! # Tagged values

A value of an enumeration with contents says by a tag which variant it is. The tag stands among
the fields of the variant, or beside a member with the content. -/

namespace ControllerCompanion.Decoder

open Json

/-! ## The tag among the fields -/

/-- The variant that a tag names. A tag that was set aside may also be the number of the
    variant. -/
def tag {α : Type} (known : List (String × α)) : Decoder α
  | _, .string name => variant known name
  | .setAside, .number (.integer i) =>
    if 0 ≤ i then
      match known[i.toNat]? with
      | some (_, a) => .ok a
      | none => refuse (.invalidValue (.integer i) (.variantIndex known.length))
    else refuse (.invalidType (.integer i) .variantName)
  | _, s => wrongKind s .variantName

/-- Sets a source aside, which reads it to its end. -/
def setAside (s : Source) : Except Problem Source :=
  match s.readFault? with
  | none => .ok s
  | some f => .error (.fault f)

/-- Sets the items of an array aside. -/
def setAsideItems : List Source → Except Problem (List Source)
  | [] => .ok []
  | s :: ss => do
    let s ← setAside s
    let ss ← setAsideItems ss
    return s :: ss

/-- Takes the tag from among the members of an object, and sets the other members aside. `known`
    is the variant named so far. -/
def splitTag {α : Type} (key : String) (variants : List (String × α)) (st : Standing)
    (known : Option α) (ending : Ending) :
    List (String × Source) → Except Problem (α × List (String × Source))
  | [] => match ending.fault?, known with
    | some f, _ => .error (.fault f)
    | none, some a => .ok (a, [])
    | none, none => refuse (.missingField key)
  | (k, s) :: ms =>
    if k = key then
      match known with
      | some _ => refuse (.duplicateField key)
      | none => do
        let a ← tag variants st s
        splitTag key variants st (some a) ending ms
    else do
      let s ← setAside s
      let (a, others) ← splitTag key variants st known ending ms
      return (a, (k, s) :: others)

/-- An enumeration whose tag stands among the fields of the variant, or before them in an
    array. -/
def internallyTagged {α : Type} (name key : String) (variants : List (String × Decoder α)) :
    Decoder α
  | st, .object members ending _ => do
    let (d, others) ← splitTag key variants st none ending members
    d .setAside (.object others .closed none)
  | _, .array [] ending _ =>
    match ending.fault? with
    | some f => .error (.fault f)
    | none => refuse (.missingField key)
  | st, .array (s :: ss) ending _ => do
    let d ← tag variants st s
    let ss ← setAsideItems ss
    match ending.fault? with
    | some f => .error (.fault f)
    | none => d .setAside (.array ss .closed none)
  | _, s => wrongKind s (.internallyTagged name)

/-! ## The tag beside the content -/

/-- The members behind tag and content: neither may come again. -/
def nothingAgain : List (String × Source) → Except Problem Unit
  | [] => .ok ()
  | (key, _) :: _ => refuse (.duplicateField key)

/-- An enumeration whose tag and content are members of their own, in either order; other members
    do not count. In an array, the tag is the first item and the content the second, and the tag
    may be the number of the variant. Such a value stands among those that were set aside, so it
    meets no faults. -/
def adjacentlyTagged {α : Type} (name tagKey contentKey : String)
    (variants : List (String × Decoder α)) : Decoder α
  | st, .object members _ _ =>
    match members.filter fun m => m.1 = tagKey || m.1 = contentKey with
    | [] => refuse (.missingField tagKey)
    | (first, s) :: more =>
      if first = tagKey then do
        let d ← choice variants st s
        match more with
        | [] => refuse (.missingField contentKey)
        | (second, t) :: more =>
          if second = tagKey then refuse (.duplicateField tagKey)
          else do
            let a ← d st t
            nothingAgain more
            return a
      else
        match more with
        | [] => refuse (.missingField tagKey)
        | (second, t) :: more =>
          if second = contentKey then refuse (.duplicateField contentKey)
          else do
            let d ← choice variants st t
            let a ← d .setAside s
            nothingAgain more
            return a
  | _, .array [] _ _ => refuse (.invalidLength 0 (.adjacentlyTagged name))
  | _, .array [s] _ _ => do
    let _ ← tag variants .setAside s
    refuse (.invalidLength 1 (.adjacentlyTagged name))
  | st, .array (s :: t :: more) ending _ => do
    let d ← tag variants .setAside s
    let a ← d st t
    listEnd st 2 (more.length + 2) ending
    return a
  | _, s => wrongKind s (.adjacentlyTagged name)

end ControllerCompanion.Decoder
