import ControllerCompanion.Controller.Basic
import ControllerCompanion.TypeRef.Printer
import ControllerCompanion.Decoder.Record

set_option autoImplicit false

/-! # Controllers as JSON

How declared controllers are read from the document of a source parser, and how they are
written, with every field. -/

namespace ControllerCompanion

open Json Decoder Decoder.Record

namespace Accessibility

/-- The accessibilities by their names. -/
def known : List (String × Accessibility) :=
  [("public", .publicAccess), ("protected", .protectedAccess), ("internal", .internalAccess),
    ("protected_internal", .protectedInternalAccess),
    ("private_protected", .privateProtectedAccess), ("private", .privateAccess)]

/-- The name an accessibility is written by. -/
def keyword : Accessibility → String
  | .publicAccess => "public"
  | .protectedAccess => "protected"
  | .internalAccess => "internal"
  | .protectedInternalAccess => "protected_internal"
  | .privateProtectedAccess => "private_protected"
  | .privateAccess => "private"

/-- An accessibility. -/
def decoder : Decoder Accessibility := choice known

end Accessibility

namespace Controller

/-! ## Reading -/

/-- A declared constructor. -/
def Constructor.decoder : Decoder Constructor :=
  record (.structure "ParsedConstructor")
    ((((pure Constructor.mk).and
      (defaulted "accessibility" .publicAccess Accessibility.decoder)).and
      (defaulted "parameter_count" 0 count)).and
      (defaulted "generated" false bool))

/-- A declared parameter. -/
def Parameter.decoder : Decoder Parameter :=
  record (.structure "ParsedParameter")
    (((pure Parameter.mk).and (required "name" string)).and (required "type" typeRef))

/-- A declared method. -/
def Method.decoder : Decoder Method :=
  record (.structure "ParsedMethod")
    ((((((pure Method.mk).and (required "name" string)).and
      (defaulted "parameters" [] (list Parameter.decoder))).and
      (required "return_type" typeRef)).and
      (defaulted "accessibility" .publicAccess Accessibility.decoder)).and
      (defaulted "generated" false bool))

/-- A declared controller. -/
def decoder : Decoder Controller :=
  record (.structure "ParsedController")
    (((((((pure Controller.mk).and (required "name" string)).and
      (defaulted "namespace" none (nullable string))).and
      (defaulted "base_type" none (nullable typeRef))).and
      (defaulted "type_parameters" [] (list string))).and
      (defaulted "constructors" [] (list Constructor.decoder))).and
      (defaulted "methods" [] (list Method.decoder)))

/-! ## Writing -/

/-- A declared constructor. -/
def Constructor.encode (k : Constructor) : Json :=
  .object [("accessibility", .string k.accessibility.keyword),
    ("parameter_count", .number k.parameterCount), ("generated", .bool k.generated)]

/-- A declared parameter. -/
def Parameter.encode (p : Parameter) : Json :=
  .object [("name", .string p.name), ("type", .string p.type.text)]

/-- A declared method. -/
def Method.encode (m : Method) : Json :=
  .object [("name", .string m.name), ("parameters", .array (m.parameters.map Parameter.encode)),
    ("return_type", .string m.returnType.text),
    ("accessibility", .string m.accessibility.keyword), ("generated", .bool m.generated)]

/-- A declared controller. -/
def encode (c : Controller) : Json :=
  .object [("name", .string c.name), ("namespace", nullable .string c.namespaceText),
    ("base_type", nullable (fun t => .string t.text) c.baseType),
    ("type_parameters", strings c.typeParameters),
    ("constructors", .array (c.constructors.map Constructor.encode)),
    ("methods", .array (c.methods.map Method.encode))]

end Controller

end ControllerCompanion
