import ControllerCompanion.Config.Decoding
import ControllerCompanion.Config.Encoding
import ControllerCompanion.Proofs.Decoder.Named
import ControllerCompanion.Proofs.Json.Reading

set_option autoImplicit false

/-! # Partial configurations

A document that names some fields of a configuration, at any level and in any order, overrides
these fields and no others: what it is decoded to keeps the named fields and has default values
elsewhere (`ProjectConfig.decoder_names`). -/

namespace ControllerCompanion

open Json Decoder Decoder.Record

/-! ## Keeping some fields -/

/-- The convention with its named fields, and default values in the others. -/
def AreaConvention.keeping (c : AreaConvention) (named : List String → Bool) : AreaConvention :=
  let d : AreaConvention := {}
  { areasSegment := if named ["areas_segment"] then c.areasSegment else d.areasSegment
    controllersSegment :=
      if named ["controllers_segment"] then c.controllersSegment else d.controllersSegment }

/-- The configuration with its named fields, and default values in the others. -/
def GeneratorConfig.keeping (c : GeneratorConfig) (named : List String → Bool) :
    GeneratorConfig :=
  let d : GeneratorConfig := {}
  { areas :=
      if named ["areas"] then c.areas.keeping fun path => named ("areas" :: path) else d.areas
    actionResultType :=
      if named ["action_result_type"] then c.actionResultType else d.actionResultType
    callInfoType := if named ["call_info_type"] then c.callInfoType else d.callInfoType
    redirectResultType :=
      if named ["redirect_result_type"] then c.redirectResultType else d.redirectResultType
    markerType := if named ["marker_type"] then c.markerType else d.markerType
    markerInstance := if named ["marker_instance"] then c.markerInstance else d.markerInstance
    overrideClassPrefix :=
      if named ["override_class_prefix"] then c.overrideClassPrefix else d.overrideClassPrefix
    overrideMethodSuffix :=
      if named ["override_method_suffix"] then c.overrideMethodSuffix else d.overrideMethodSuffix
    helpersClass := if named ["helpers_class"] then c.helpersClass else d.helpersClass
    asyncWrappers := if named ["async_wrappers"] then c.asyncWrappers else d.asyncWrappers
    toolName := if named ["tool_name"] then c.toolName else d.toolName
    toolVersion := if named ["tool_version"] then c.toolVersion else d.toolVersion }

/-- The configuration with its named fields, and default values in the others. -/
def ViewLocatorConfig.keeping (c : ViewLocatorConfig) (named : List String → Bool) :
    ViewLocatorConfig :=
  let d : ViewLocatorConfig := {}
  { pagesFolder := if named ["pages_folder"] then c.pagesFolder else d.pagesFolder
    viewsFolder := if named ["views_folder"] then c.viewsFolder else d.viewsFolder
    areasFolder := if named ["areas_folder"] then c.areasFolder else d.areasFolder
    extensions := if named ["extensions"] then c.extensions else d.extensions
    excludedDirectories :=
      if named ["excluded_directories"] then c.excludedDirectories else d.excludedDirectories
    excludedFiles := if named ["excluded_files"] then c.excludedFiles else d.excludedFiles }

/-- The configuration with its named fields, and default values in the others. A field is told by
    the keys that lead to it. -/
def ProjectConfig.keeping (c : ProjectConfig) (named : List String → Bool) : ProjectConfig :=
  let d : ProjectConfig := {}
  { generator :=
      if named ["generator"] then c.generator.keeping fun path => named ("generator" :: path)
      else d.generator
    views :=
      if named ["views"] then c.views.keeping fun path => named ("views" :: path) else d.views }

/-! ## Reading them -/

section

variable (named : List String → Bool)

theorem AreaConvention.readsNamed (c : AreaConvention) :
    ReadsNamed AreaConvention.decoder named c.encode (c.keeping named) := by
  refine .record rfl (by simp) fun members skipping h => ?_
  exact .and (.and (.pure _) (.string h (by simp))) (.string h (by simp))

theorem GeneratorConfig.readsNamed (c : GeneratorConfig) :
    ReadsNamed GeneratorConfig.decoder named c.encode (c.keeping named) := by
  have hareas := c.areas.readsNamed fun path => named ("areas" :: path)
  refine .record rfl (by simp) fun members skipping h => ?_
  exact .and (.and (.and (.and (.and (.and (.and (.and (.and (.and (.and (.and (.pure _)
    (.defaulted h (by simp) hareas)) (.string h (by simp))) (.string h (by simp)))
    (.string h (by simp))) (.string h (by simp))) (.string h (by simp))) (.string h (by simp)))
    (.string h (by simp))) (.string h (by simp))) (.strings h (by simp)))
    (.string h (by simp))) (.string h (by simp))

theorem ViewLocatorConfig.readsNamed (c : ViewLocatorConfig) :
    ReadsNamed ViewLocatorConfig.decoder named c.encode (c.keeping named) := by
  refine .record rfl (by simp) fun members skipping h => ?_
  exact .and (.and (.and (.and (.and (.and (.pure _) (.string h (by simp)))
    (.string h (by simp))) (.string h (by simp))) (.strings h (by simp)))
    (.strings h (by simp))) (.strings h (by simp))

theorem ProjectConfig.readsNamed (c : ProjectConfig) :
    ReadsNamed ProjectConfig.decoder named c.encode (c.keeping named) := by
  have hgenerator := c.generator.readsNamed fun path => named ("generator" :: path)
  have hviews := c.views.readsNamed fun path => named ("views" :: path)
  refine .record rfl (by simp) fun members skipping h => ?_
  exact .and (.and (.pure _) (.defaulted h (by simp) hgenerator)) (.defaulted h (by simp) hviews)

end

/-! ## Documents -/

/-- No key is written twice. -/
theorem ProjectConfig.distinctKeys_encode (c : ProjectConfig) : c.encode.DistinctKeys := by
  simp [encode, GeneratorConfig.encode, AreaConvention.encode, ViewLocatorConfig.encode, strings,
    DistinctKeys, DistinctKeysMembers]

/-- **A configuration overrides exactly what it names.** Whatever fields are named, at whatever
levels, every source that names them with the values of `c` is decoded to `c` with default values in
all other fields, and so is every text of such a source. To name all fields gives `c` itself, and to
name none the default configuration. -/
theorem ProjectConfig.decoder_names (c : ProjectConfig) :
    (∀ named s, Names named c.encode s →
      (∀ st, ProjectConfig.decoder st s = .ok (c.keeping named))
        ∧ ∀ text, Document.ofText text = ⟨s, none⟩ →
          ProjectConfig.decoder.ofText text = .ok (c.keeping named))
      ∧ (∀ named, ProjectConfig.decoder.ofJson (c.encode.only named) = .ok (c.keeping named))
      ∧ ProjectConfig.decoder.ofJson c.encode = .ok c
      ∧ ProjectConfig.decoder.ofJson (.object []) = .ok {} := by
  have honly (named : List String → Bool) :
      ProjectConfig.decoder.ofJson (c.encode.only named) = .ok (c.keeping named) :=
    c.readsNamed named _ (names_only c.encode c.distinctKeys_encode named) .whole
  refine ⟨?sources, honly, honly fun _ => true, honly fun _ => false⟩
  intro named s hs
  have hread := c.readsNamed named s hs
  refine ⟨hread, fun text htext => ?_⟩
  rw [Decoder.ofText, htext]
  simp only [hread]

/-- A configuration with values of its own. -/
def shopConfig : ProjectConfig where
  generator :=
    { areas := { areasSegment := "Modules", controllersSegment := "Endpoints" }
      helpersClass := "Links"
      toolName := "Shop" }
  views := { viewsFolder := "Templates", extensions := ["cshtml", "razor"] }

/-- The fields of it that a document names. -/
def shopFields : List (List String) :=
  [["generator"], ["generator", "areas"], ["generator", "areas", "areas_segment"],
    ["generator", "helpers_class"], ["views"], ["views", "extensions"]]

/-- The document. It begins with the views, and two of its keys are unknown where they stand. -/
def shopDocument : Json :=
  .object
    [("views", .object [("extensions", strings ["cshtml", "razor"])]),
      ("version", .array [.null, .object []]),
      ("generator", .object
        [("helpers_class", .string "Links"), ("pages_folder", .bool true),
          ("areas", .object [("areas_segment", .string "Modules")])])]

theorem names_shopDocument :
    Names shopFields.contains shopConfig.encode shopDocument.source := by
  have hareas : Names (fun path => shopFields.contains ("generator" :: "areas" :: path))
      shopConfig.generator.areas.encode
      (Json.object [("areas_segment", .string "Modules")]).source := by
    refine names_object (by decide +kernel) (by decide +kernel) ?_
    exact List.forall_mem_singleton.2 (names_of_lookup rfl (.leaf (by simp)))
  have hgenerator : Names (fun path => shopFields.contains ("generator" :: path))
      shopConfig.generator.encode
      (Json.object [("helpers_class", .string "Links"), ("pages_folder", .bool true),
        ("areas", .object [("areas_segment", .string "Modules")])]).source := by
    refine names_object (by decide +kernel) (by decide +kernel) ?_
    simp only [List.forall_mem_cons]
    refine ⟨names_of_lookup rfl (.leaf (by simp)), ?unknown, names_of_lookup rfl hareas, by simp⟩
    case unknown => intro _ hw; cases hw
  have hviews : Names (fun path => shopFields.contains ("views" :: path))
      shopConfig.views.encode
      (Json.object [("extensions", strings ["cshtml", "razor"])]).source := by
    refine names_object (by decide +kernel) (by decide +kernel) ?_
    exact List.forall_mem_singleton.2 (names_of_lookup rfl (.leaf (by simp [strings])))
  refine names_object (by decide +kernel) (by decide +kernel) ?_
  simp only [List.forall_mem_cons]
  refine ⟨names_of_lookup rfl hviews, ?unknown, names_of_lookup rfl hgenerator, by simp⟩
  case unknown => intro _ hw; cases hw

theorem decoder_shopDocument :
    Names shopFields.contains shopConfig.encode shopDocument.source
      ∧ Document.ofText shopDocument.pretty = ⟨shopDocument.source, none⟩
      ∧ ProjectConfig.decoder.ofText shopDocument.pretty
        = .ok { generator := { areas := { areasSegment := "Modules" }, helpersClass := "Links" }
                views := { extensions := ["cshtml", "razor"] } } := by
  have hdocument : Document.ofText shopDocument.pretty = ⟨shopDocument.source, none⟩ :=
    Document.ofText_pretty (by decide +kernel) (by decide +kernel)
  have hsources := (shopConfig.decoder_names).1 _ _ names_shopDocument
  exact ⟨names_shopDocument, hdocument, hsources.2 _ hdocument⟩

end ControllerCompanion
