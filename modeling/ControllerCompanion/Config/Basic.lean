set_option autoImplicit false

/-! # Configuration

Every name of the web framework that generated code refers to, and every folder and file
convention by which views are found, can be configured. The defaults are those of the framework. -/

namespace ControllerCompanion

/-- The segments of a namespace that stand around the name of an area. -/
structure AreaConvention where
  areasSegment : String := "Areas"
  controllersSegment : String := "Controllers"
  deriving Repr, DecidableEq, Inhabited

/-- The names that generated code uses. -/
structure GeneratorConfig where
  areas : AreaConvention := {}
  /-- What generated actions return. -/
  actionResultType : String := "IActionResult"
  /-- What generated actions construct. -/
  callInfoType : String := "R4Mvc_Microsoft_AspNetCore_Mvc_ActionResult"
  /-- What generated redirects return. -/
  redirectResultType : String := "RedirectToRouteResult"
  /-- What the constructor takes that does nothing. -/
  markerType : String := "Dummy"
  /-- What the override class hands to that constructor. -/
  markerInstance : String := "Dummy.Instance"
  overrideClassPrefix : String := "R4MVC_"
  overrideMethodSuffix : String := "Override"
  /-- The class that holds a slot for each controller. -/
  helpersClass : String := "MVC"
  /-- Types with one argument that stand for a result that comes later. -/
  asyncWrappers : List String := ["Task", "System.Threading.Tasks.Task"]
  toolName : String := "R4Mvc"
  toolVersion : String := "0.1.0"
  deriving Repr, DecidableEq, Inhabited

/-- Where views are found. -/
structure ViewLocatorConfig where
  /-- The folder of templates with a route of their own. -/
  pagesFolder : String := "Pages"
  /-- The folder of templates that controllers show. -/
  viewsFolder : String := "Views"
  /-- The folder whose folders are areas. -/
  areasFolder : String := "Areas"
  /-- The extensions of templates, without the dot. -/
  extensions : List String := ["cshtml"]
  /-- Directories that are not entered. -/
  excludedDirectories : List String := ["bin", "obj", "node_modules"]
  /-- Stems of templates that are no views. -/
  excludedFiles : List String := ["_ViewImports", "_ViewStart"]
  deriving Repr, DecidableEq, Inhabited

/-- The configuration of a project. -/
structure ProjectConfig where
  generator : GeneratorConfig := {}
  views : ViewLocatorConfig := {}
  deriving Repr, DecidableEq, Inhabited

namespace ViewLocatorConfig

/-- A character with ASCII capitals made small. -/
def foldAscii (c : Char) : Char := c.toLower

/-- Whether a file with the extension is a template. The case of ASCII letters does not count. -/
def isTemplateExtension (config : ViewLocatorConfig) (extension : String) : Bool :=
  config.extensions.any fun e => e.toList.map foldAscii == extension.toList.map foldAscii

end ViewLocatorConfig

end ControllerCompanion
