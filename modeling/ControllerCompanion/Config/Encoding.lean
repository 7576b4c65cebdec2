import ControllerCompanion.Config.Basic
import ControllerCompanion.Json.Value

set_option autoImplicit false

/-! # Configurations as JSON

A configuration is written in full. -/

namespace ControllerCompanion

open Json

/-- An area convention. -/
def AreaConvention.encode (c : AreaConvention) : Json :=
  .object [("areas_segment", .string c.areasSegment),
    ("controllers_segment", .string c.controllersSegment)]

/-- The configuration of the generator. -/
def GeneratorConfig.encode (c : GeneratorConfig) : Json :=
  .object [("areas", c.areas.encode),
    ("action_result_type", .string c.actionResultType),
    ("call_info_type", .string c.callInfoType),
    ("redirect_result_type", .string c.redirectResultType),
    ("marker_type", .string c.markerType),
    ("marker_instance", .string c.markerInstance),
    ("override_class_prefix", .string c.overrideClassPrefix),
    ("override_method_suffix", .string c.overrideMethodSuffix),
    ("helpers_class", .string c.helpersClass),
    ("async_wrappers", strings c.asyncWrappers),
    ("tool_name", .string c.toolName),
    ("tool_version", .string c.toolVersion)]

/-- The configuration of the view locator. -/
def ViewLocatorConfig.encode (c : ViewLocatorConfig) : Json :=
  .object [("pages_folder", .string c.pagesFolder),
    ("views_folder", .string c.viewsFolder),
    ("areas_folder", .string c.areasFolder),
    ("extensions", strings c.extensions),
    ("excluded_directories", strings c.excludedDirectories),
    ("excluded_files", strings c.excludedFiles)]

/-- The configuration of a project. -/
def ProjectConfig.encode (c : ProjectConfig) : Json :=
  .object [("generator", c.generator.encode), ("views", c.views.encode)]

end ControllerCompanion
