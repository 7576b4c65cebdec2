import ControllerCompanion.Config.Basic
import ControllerCompanion.Decoder.Record

set_option autoImplicit false

/-! # Reading configurations

A configuration names only what differs from the defaults: each field that it does not name has
its default value, at every level. -/

namespace ControllerCompanion

open Decoder Decoder.Record

/-- An area convention. -/
def AreaConvention.decoder : Decoder AreaConvention :=
  let d : AreaConvention := {}
  record (.structure "AreaConvention")
    (((pure AreaConvention.mk).and (defaulted "areas_segment" d.areasSegment string)).and
      (defaulted "controllers_segment" d.controllersSegment string))

/-- The configuration of the generator. -/
def GeneratorConfig.decoder : Decoder GeneratorConfig :=
  let d : GeneratorConfig := {}
  record (.structure "GeneratorConfig")
    (((((((((((((pure GeneratorConfig.mk).and
      (defaulted "areas" d.areas AreaConvention.decoder)).and
      (defaulted "action_result_type" d.actionResultType string)).and
      (defaulted "call_info_type" d.callInfoType string)).and
      (defaulted "redirect_result_type" d.redirectResultType string)).and
      (defaulted "marker_type" d.markerType string)).and
      (defaulted "marker_instance" d.markerInstance string)).and
      (defaulted "override_class_prefix" d.overrideClassPrefix string)).and
      (defaulted "override_method_suffix" d.overrideMethodSuffix string)).and
      (defaulted "helpers_class" d.helpersClass string)).and
      (defaulted "async_wrappers" d.asyncWrappers (list string))).and
      (defaulted "tool_name" d.toolName string)).and
      (defaulted "tool_version" d.toolVersion string))

/-- The configuration of the view locator. -/
def ViewLocatorConfig.decoder : Decoder ViewLocatorConfig :=
  let d : ViewLocatorConfig := {}
  record (.structure "ViewLocatorConfig")
    (((((((pure ViewLocatorConfig.mk).and
      (defaulted "pages_folder" d.pagesFolder string)).and
      (defaulted "views_folder" d.viewsFolder string)).and
      (defaulted "areas_folder" d.areasFolder string)).and
      (defaulted "extensions" d.extensions (list string))).and
      (defaulted "excluded_directories" d.excludedDirectories (list string))).and
      (defaulted "excluded_files" d.excludedFiles (list string)))

/-- The configuration of a project. -/
def ProjectConfig.decoder : Decoder ProjectConfig :=
  let d : ProjectConfig := {}
  record (.structure "ProjectConfig")
    (((pure ProjectConfig.mk).and (defaulted "generator" d.generator GeneratorConfig.decoder)).and
      (defaulted "views" d.views ViewLocatorConfig.decoder))

end ControllerCompanion
