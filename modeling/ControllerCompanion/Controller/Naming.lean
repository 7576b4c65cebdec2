import ControllerCompanion.Config.Basic
import ControllerCompanion.Unicode.Character

set_option autoImplicit false

/-! # Names of controllers and areas

What a controller and its area are called, read off the declared name and the namespace. -/

namespace ControllerCompanion

open Unicode

/-- A text without the blanks at its ends. -/
def trim (s : List Char) : List Char :=
  ((s.dropWhile isBlank).reverse.dropWhile isBlank).reverse

namespace AreaConvention

/-- The first segment between the two of the convention that is not empty. -/
def between (c : AreaConvention) : List String → Option String
  | before :: area :: behind :: rest =>
    if before = c.areasSegment ∧ behind = c.controllersSegment ∧ area ≠ "" then some area
    else between c (area :: behind :: rest)
  | _ => none

/-- The area that a namespace belongs to, or the empty text. Segments are compared as a whole,
    without the blanks around them. -/
def areaOf (c : AreaConvention) (namespaceText : String) : String :=
  let segments := (namespaceText.toList.splitOn '.').map fun s => String.ofList (trim s)
  (c.between segments).getD ""

end AreaConvention

/-- The end that names of controller classes have. -/
def controllerSuffix : List Char := "Controller".toList

/-- The name of a controller: that of its class without the suffix, unless nothing is left. -/
def controllerName (declared : String) : String :=
  let name := declared.toList
  let stem := name.take (name.length - controllerSuffix.length)
  if controllerSuffix.isSuffixOf name ∧ stem ≠ [] then String.ofList stem else declared

end ControllerCompanion
