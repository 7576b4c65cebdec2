import ControllerCompanion.Proofs.Project.Documents
import ControllerCompanion.Proofs.SnakeCase
import ControllerCompanion.Proofs.Storage.Directories
import ControllerCompanion.Proofs.Storage.Joining

set_option autoImplicit false

/-! # What a generation touches

A generation leaves the storage as it is, until all that is to be written is there. Then it makes
the output directory, with the directories it lies in, and writes files in it, whose names are
those of the documents of the model's namespaces. The text of a namespace is free, but the name of
its document is a single part of a path (`isPart_documentName`), so no file is written elsewhere. -/

namespace ControllerCompanion

open Storage

/-! ## Names of documents -/

namespace Generator

theorem isHarmless_of_mem_documentName {namespaceText : String} {c : Char}
    (hc : c ∈ (documentName namespaceText).toList) : Text.isHarmless c = true ∨ c = '.' := by
  rw [documentName, String.toList_append] at hc
  rcases List.mem_append.1 hc with hname | hextension
  · exact .inl (Text.isHarmless_of_mem_snakeCase hname)
  · have hplain : (".json".toList.all fun c => Text.isHarmless c || c == '.') = true := by decide
    simpa using List.all_eq_true.1 hplain c hextension

/-- The name of a document is a single part of a path, whatever the namespace is. -/
theorem isPart_documentName (namespaceText : String) :
    FilePath.IsPart (documentName namespaceText) := by
  have hlong : 4 < (documentName namespaceText).toList.length := by
    rw [documentName, String.toList_append, List.length_append]
    have hextension : ".json".toList.length = 5 := by decide
    omega
  refine ⟨fun hslash => ?_, ?_, ?_, ?_⟩
  · rcases isHarmless_of_mem_documentName hslash with h | h
    · exact absurd h (by decide)
    · exact absurd h (by decide)
  all_goals
    intro h
    rw [h] at hlong
    exact absurd hlong (by decide)

example : documentName "../../etc/passwd" = "etc_passwd.json" := by decide +kernel

end Generator

namespace Project

variable {s s' : Storage} {modelPath root output : String} {config : ProjectConfig}
  {location : Location}

/-! ## Failures -/

/-- Something that a generation needs is of no use: the model cannot be read, it is malformed or
    invalid, the views are not found, a configured type is none, or the namespace of a controller
    is unknown. -/
inductive Lacks (s : Storage) (modelPath root : String) (config : ProjectConfig) : Prop where
  | readable {e : IoError} (failed : s.readText (.ofText modelPath) = .error e)
  | model {text : String} {e : Model.Unreadable}
      (read : s.readText (.ofText modelPath) = .ok text) (failed : Model.ofText text = .error e)
  | views {e : ScanError} (failed : viewsOf s config.views root = .error e)
  | types {e : Generator.InvalidType} (failed : Generator.ofConfig config.generator = .error e)
  | namespaces {text : String} {model : Model} {c : Controller}
      (read : s.readText (.ofText modelPath) = .ok text) (found : Model.ofText text = .ok model)
      (mem : c ∈ model.controllers) (unknown : c.resolvedNamespace = none)

theorem Lacks.exists_error (h : Lacks s modelPath root config) :
    ∃ e, namespacesOf s modelPath root config = .error e := by
  cases hns : namespacesOf s modelPath root config with
  | error e => exact ⟨e, rfl⟩
  | ok ns =>
      obtain ⟨text, model, views, g, hread, hmodel, hviews, hg, hknown, -⟩ :=
        namespacesOf_eq_ok_iff.1 hns
      cases h with
      | readable failed => simp [hread] at failed
      | model read failed =>
          obtain rfl := Except.ok.inj (hread.symm.trans read)
          simp [hmodel] at failed
      | views failed => simp [hviews] at failed
      | types failed => simp [hg] at failed
      | namespaces read found mem unknown =>
          obtain rfl := Except.ok.inj (hread.symm.trans read)
          obtain rfl := Except.ok.inj (hmodel.symm.trans found)
          exact absurd unknown (hknown _ mem)

/-! ## Successes -/

/-- The file of a namespace's document stands at a location: in the directory of the output path,
    unless its name is that of a link. -/
structure IsDocumentAt (s : Storage) (output namespaceText : String) (location : Location) :
    Prop where
  place : s.placeOf? (documentPath output namespaceText) = some location
  isFile : ∃ text, s.root.textAt location = some text
  inDirectory : s.linkAt? (documentPath output namespaceText) = none →
    ∃ directory, s.follow (s.absolute (.ofText output)).steps = .ok directory ∧
      location = directory.location ++ [.text (Generator.documentName namespaceText)]

/-- The second storage is the first one with the output directory, the directories on the way to
    it, and documents of the namespaces of some controllers. -/
structure TouchesOnly (s s' : Storage) (output : String) (cs : List Controller) : Prop where
  workingDirectory : s.workingDirectory = s'.workingDirectory
  touched : ∀ location, SameAt s s' location ∨
    IsMade s s' (s.absolute (.ofText output)).steps location ∨
    ∃ c ∈ cs, ∃ namespaceText, c.resolvedNamespace = some namespaceText ∧
      IsDocumentAt s' output namespaceText location

/-- A text that changes is that of a document. -/
theorem exists_placed_of_textAfter_ne {placed : Document → Option Location} {ds : List Document}
    {before : Option String} (h : textAfter placed location before ds ≠ before) :
    ∃ d ∈ ds, placed d = some location := by
  induction ds using List.reverseRecOn with
  | nil => exact absurd rfl h
  | append_singleton ds last ih =>
      rw [textAfter_concat] at h
      by_cases hlast : placed last = some location
      · exact ⟨last, List.mem_append_right ds (List.mem_singleton_self last), hlast⟩
      · rw [if_neg hlast] at h
        obtain ⟨d, hd, hplaced⟩ := ih h
        exact ⟨d, List.mem_append_left [last] hd, hplaced⟩

theorem isDocumentAt_of_placeOf? {namespaceText text : String}
    (hplace : s.placeOf? (documentPath output namespaceText) = some location)
    (htext : s.root.textAt location = some text) :
    IsDocumentAt s output namespaceText location := by
  refine ⟨hplace, ⟨text, htext⟩, fun hlink => ?_⟩
  obtain ⟨directory, left, hwalk, hlocation⟩ := placeOf?_child hplace hlink
  refine ⟨directory, ?_, hlocation⟩
  rw [follow, hwalk]
  rfl

/-- Writing documents changes their files only. -/
theorem isDocumentAt_of_writeDocuments {ns : List NamespaceDecl}
    (h : runOn (writeDocuments output (ns.map Document.ofNamespace)) s = (.ok (), s'))
    (location : Location) :
    SameAt s s' location ∨ ∃ n ∈ ns, IsDocumentAt s' output n.name location := by
  obtain ⟨halike, -, htexts⟩ := runOn_writeDocuments h
  by_cases htext : s'.root.textAt location = s.root.textAt location
  · exact .inl ⟨halike.fixtures location, htext.symm⟩
  · rw [htexts] at htext
    obtain ⟨d, hd, hplaced⟩ := exists_placed_of_textAfter_ne htext
    obtain ⟨text, hafter⟩ := @exists_textAfter (fun d => s'.placeOf? (d.path output)) _ _ hd
      location hplaced (s.root.textAt location)
    obtain ⟨n, hn, rfl⟩ := List.mem_map.1 hd
    exact .inr ⟨n, hn, isDocumentAt_of_placeOf? hplaced ((htexts location).trans hafter)⟩

theorem touchesOnly_of_writeNamespaces {ns : List NamespaceDecl} {cs : List Controller}
    {count : Nat} (hns : ∀ n ∈ ns, ∃ c ∈ cs, c.resolvedNamespace = some n.name)
    (h : runOn (writeNamespaces output ns) s = (.ok count, s')) :
    TouchesOnly s s' output cs := by
  obtain ⟨-, s₁, hmake, hwrite⟩ := writeNamespaces_eq_ok h
  have hmakes : MakesOnly s s₁ (s.absolute (.ofText output)).steps := by
    have hany := makesOnly_makeDirectories s (.ofText output)
    rwa [hmake] at hany
  obtain ⟨halike, -, -⟩ := runOn_writeDocuments hwrite
  refine ⟨hmakes.workingDirectory.trans halike.workingDirectory, fun location => ?_⟩
  rcases isDocumentAt_of_writeDocuments hwrite location with hsame | ⟨n, hn, hdocument⟩
  · -- what the documents leave alone is as the directories were made
    rcases hmakes.made location with hbefore | hmade
    · exact .inl (hbefore.trans hsame)
    · exact .inr (.inl (hmade.of_keeps halike.fixtures.keeps))
  · obtain ⟨c, hc, hresolved⟩ := hns n hn
    exact .inr (.inr ⟨c, hc, n.name, hresolved, hdocument⟩)

/-- **A generation touches nothing but its output.** If something is lacking, it fails, and the
storage stays as it is. If it succeeds, the storage differs in the output directory, the
directories on the way to it, and the documents of the model's namespaces, which stand in that
directory: their names are single parts of paths, so joining them to its path leads nowhere
else. -/
theorem generate_touches_only_output (s : Storage) (modelPath root output : String)
    (config : ProjectConfig) :
    (Lacks s modelPath root config →
      ∃ e, runOn (generate modelPath root output config) s = (.error e, s)) ∧
    (∀ count s', runOn (generate modelPath root output config) s = (.ok count, s') →
      ∃ text model, s.readText (.ofText modelPath) = .ok text ∧ Model.ofText text = .ok model ∧
        TouchesOnly s s' output model.controllers) ∧
    ∀ namespaceText, FilePath.IsPart (Generator.documentName namespaceText) ∧
      (∀ c ∈ (Generator.documentName namespaceText).toList,
        Text.isHarmless c = true ∨ c = '.') ∧
      FilePath.ofText (FilePath.join output (Generator.documentName namespaceText))
        = documentPath output namespaceText := by
  refine ⟨fun hlacks => ?_, fun count s' h => ?_, fun namespaceText => ?_⟩
  · obtain ⟨e, he⟩ := hlacks.exists_error
    exact ⟨e, by rw [runOn_generate, he]⟩
  · cases hns : namespacesOf s modelPath root config with
    | error e => simp [runOn_generate, hns] at h
    | ok ns =>
        rw [runOn_generate, hns] at h
        obtain ⟨text, model, views, g, hread, hmodel, -, -, -, hnames⟩ :=
          namespacesOf_eq_ok_iff.1 hns
        refine ⟨text, model, hread, hmodel, touchesOnly_of_writeNamespaces ?_ h⟩
        intro n hn
        rw [hnames] at hn
        obtain ⟨name, hname, rfl⟩ := List.mem_map.1 hn
        exact Generator.mem_namespaceTexts.1 hname
  · have hpart := Generator.isPart_documentName namespaceText
    exact ⟨hpart, fun c hc => Generator.isHarmless_of_mem_documentName hc,
      FilePath.ofText_join hpart output⟩

/-- A namespace that looks like a path out of the output directory is written to a file in it, and a
missing model leaves everything as it is. -/
theorem generateTwo_touches_only_output :
    (∃ s', generateTwo "../../etc/passwd" "İ\\\\.." = (.ok 2, s') ∧
      ∃ text model, (twoControllers "../../etc/passwd" "İ\\\\..").readText (.ofText "model.json")
          = .ok text ∧ Model.ofText text = .ok model ∧
        TouchesOnly (twoControllers "../../etc/passwd" "İ\\\\..") s' "out" model.controllers) ∧
    ∃ e, runOn (generate "models.json" "." "out" {}) (twoControllers "App" "App")
      = (.error e, twoControllers "App" "App") := by
  have hcount : (generateTwo "../../etc/passwd" "İ\\\\..").1.toOption = some 2 := by
    decide +kernel
  have hmissing : (twoControllers "App" "App").readText (.ofText "models.json")
      = .error .notFound := by
    decide +kernel
  have hrun := eq_ok_of_fst hcount
  exact ⟨⟨_, hrun, (generate_touches_only_output _ _ _ _ _).2.1 _ _ hrun⟩,
    (generate_touches_only_output _ _ _ _ _).1 (.readable hmissing)⟩

end Project

end ControllerCompanion
