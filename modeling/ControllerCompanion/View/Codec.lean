import ControllerCompanion.View.Basic
import ControllerCompanion.Json.Value
import ControllerCompanion.Decoder.Record

set_option autoImplicit false

/-! # Views as JSON -/

namespace ControllerCompanion

open Json Decoder Decoder.Record

/-- A view. Its area is left out if it has none. -/
def View.encode (v : View) : Json :=
  .object ([("viewName", .string v.name), ("filePath", .string v.filePath),
    ("relativePath", .string v.relativePath.text), ("pagePath", .string v.pagePath),
    ("isPage", .bool v.isPage)]
    ++ memberIfSome "area" .string v.area
    ++ [("segments", strings v.segments)])

/-- A view. Its folders are kept as they are given. -/
def View.decoder : Decoder View :=
  record (.structure "View")
    ((((((((pure View.mk).and (required "viewName" string)).and
      (required "filePath" path)).and
      (required "relativePath" virtualPath)).and
      (required "pagePath" string)).and
      (required "isPage" bool)).and
      (defaulted "area" none (nullable string))).and
      (required "segments" (list string)))

end ControllerCompanion
