import ControllerCompanion.Config.Basic
import ControllerCompanion.Controller.Basic
import ControllerCompanion.Declaration.Builder
import ControllerCompanion.TypeRef.Reader

set_option autoImplicit false

/-! # Generators

A generator is a configuration whose types have been read. It holds what the generated classes of
all controllers have in common. -/

namespace ControllerCompanion

/-- A configuration with its types. -/
structure Generator where
  config : GeneratorConfig
  actionResult : TypeRef
  callInfo : TypeRef
  redirectResult : TypeRef
  marker : TypeRef
  deriving Repr, DecidableEq

namespace Generator

/-! ## Making one -/

/-- A configured type that cannot be read. -/
structure InvalidType where
  field : String
  cause : TypeRef.Invalid
  deriving Repr, DecidableEq

/-- The text of the complaint. -/
def InvalidType.message (e : InvalidType) : String :=
  "Invalid configuration: " ++ e.field ++ ": " ++ e.cause.message

/-- Reads a configured type. -/
def configuredType (field text : String) : Except InvalidType TypeRef :=
  (TypeRef.parse text).mapError (⟨field, ·⟩)

/-- The generator of a configuration; the first type that cannot be read is told. -/
def ofConfig (config : GeneratorConfig) : Except InvalidType Generator := do
  let actionResult ← configuredType "action_result_type" config.actionResultType
  let callInfo ← configuredType "call_info_type" config.callInfoType
  let redirectResult ← configuredType "redirect_result_type" config.redirectResultType
  let marker ← configuredType "marker_type" config.markerType
  return ⟨config, actionResult, callInfo, redirectResult, marker⟩

/-- The generator of the default configuration. -/
def standard : Generator :=
  let config : GeneratorConfig := {}
  ⟨config, .named config.actionResultType, .named config.callInfoType,
    .named config.redirectResultType, .named config.markerType⟩

/-! ## What generated code has in common -/

/-- The area of a namespace. -/
def areaOf (g : Generator) (namespaceText : String) : String :=
  g.config.areas.areaOf namespaceText

/-- The call info of an action: `new CallInfo(Area, Name, ActionNames.action)`. -/
def callInfoExpr (g : Generator) (action : String) : Expr :=
  .objectCreation g.callInfo
    [.ident "Area", .ident "Name", .memberAccess (.ident "ActionNames") action]

/-- The attributes of generated code. -/
def attributes (g : Generator) : List Attribute :=
  [.generatedCode g.config.toolName g.config.toolVersion, .debuggerNonUserCode]

end Generator

end ControllerCompanion
