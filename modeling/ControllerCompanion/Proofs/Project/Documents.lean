import ControllerCompanion.Proofs.Generator.Groups
import ControllerCompanion.Proofs.Json.Strings
import ControllerCompanion.Proofs.Outcome
import ControllerCompanion.Proofs.Project.Runs
import ControllerCompanion.Proofs.Storage.Writing
import Mathlib.Data.List.Dedup

set_option autoImplicit false

/-! # The documents of a project

A generation that succeeds has written a document for each namespace, one after the other. Each
file holds the last document that was written to it (`runOn_writeDocuments`). So all documents are
there exactly if their files are different ones, which different names of the namespaces do not
make sure. -/

namespace ControllerCompanion.Project

open Storage

variable {s s' : Storage} {output : String}

/-! ## Writing documents in turn -/

/-- The path of the file of a document. -/
def Document.path (output : String) (d : Document) : FilePath :=
  (FilePath.ofText output).child (.text d.name)

/-- The text at a location, after documents were written to their places in turn. -/
def textAfter (placed : Document → Option Location) (location : Location)
    (before : Option String) (ds : List Document) : Option String :=
  ds.foldl (fun text d => if placed d = some location then some d.text else text) before

theorem textAfter_concat (placed : Document → Option Location) (location : Location)
    (before : Option String) (ds : List Document) (d : Document) :
    textAfter placed location before (ds ++ [d])
      = if placed d = some location then some d.text else textAfter placed location before ds := by
  rw [textAfter, List.foldl_append]
  rfl

/-- Where a document was written, there is a text. -/
theorem exists_textAfter {placed : Document → Option Location} {ds : List Document} {d : Document}
    (hd : d ∈ ds) {location : Location} (hplace : placed d = some location)
    (before : Option String) : ∃ text, textAfter placed location before ds = some text := by
  induction ds using List.reverseRecOn with
  | nil => simp at hd
  | append_singleton ds last ih =>
      rw [textAfter_concat]
      by_cases hlast : placed last = some location
      · exact ⟨last.text, if_pos hlast⟩
      · rw [if_neg hlast]
        rcases List.mem_append.1 hd with hd | hd
        · exact ih hd
        · exact absurd (List.mem_singleton.1 hd ▸ hplace) hlast

/-- Documents with different texts are all there exactly if their places are different. -/
theorem forall_textAfter_iff {placed : Document → Option Location} {ds : List Document}
    (hplaced : ∀ d ∈ ds, placed d ≠ none) (htexts : (ds.map Document.text).Nodup)
    (before : Location → Option String) :
    (∀ d ∈ ds, ∀ location, placed d = some location →
        textAfter placed location (before location) ds = some d.text) ↔
      (ds.map placed).Nodup := by
  induction ds using List.reverseRecOn with
  | nil => simp
  | append_singleton ds last ih =>
      rw [List.map_append, List.map_singleton, List.nodup_append] at htexts
      obtain ⟨htexts, -, hlast⟩ := htexts
      have hothers := ih (fun d hd => hplaced d (List.mem_append_left _ hd)) htexts
      rw [List.map_append, List.map_singleton, List.nodup_append]
      constructor
      · intro h
        -- the last document is at its place, so no other one has it
        have hne : ∀ d ∈ ds, placed d ≠ placed last := by
          intro d hd heq
          obtain ⟨location, hlocation⟩ := Option.ne_none_iff_exists'.1
            (hplaced d (List.mem_append_left _ hd))
          have htext := h d (List.mem_append_left _ hd) location hlocation
          rw [textAfter_concat, if_pos (heq ▸ hlocation)] at htext
          exact hlast _ (List.mem_map_of_mem hd) _ (List.mem_singleton_self _)
            (Option.some.inj htext).symm
        refine ⟨hothers.1 fun d hd location hlocation => ?_, by simp, ?_⟩
        · have htext := h d (List.mem_append_left _ hd) location hlocation
          rwa [textAfter_concat, if_neg (hlocation ▸ (hne d hd).symm)] at htext
        · simpa using hne
      · rintro ⟨hnodup, -, hne⟩ d hd location hlocation
        rw [textAfter_concat]
        rcases List.mem_append.1 hd with hd | hd
        · have hother : placed last ≠ some location := by
            intro heq
            refine hne _ (List.mem_map_of_mem hd) _ (List.mem_singleton_self _) ?_
            rw [hlocation, heq]
          rw [if_neg hother]
          exact hothers.2 hnodup d hd location hlocation
        · obtain rfl := List.mem_singleton.1 hd
          rw [if_pos hlocation]

/-- **Writing documents gives each place the text of the last document that was written there**,
and changes nothing else. -/
theorem runOn_writeDocuments {ds : List Document}
    (h : runOn (writeDocuments output ds) s = (.ok (), s')) :
    Alike s s' ∧ (∀ d ∈ ds, s'.placeOf? (d.path output) ≠ none) ∧
      ∀ location, s'.root.textAt location
        = textAfter (fun d => s'.placeOf? (d.path output)) location (s.root.textAt location)
            ds := by
  induction ds generalizing s with
  | nil =>
      obtain rfl : s = s' := by simpa [writeDocuments] using h
      exact ⟨⟨fun _ => rfl, rfl⟩, by simp, fun _ => rfl⟩
  | cons d ds ih =>
      have hwrite : (Disk.writeText output d.name d.text : StateM Storage _) s
          = s.writeIn output d.name d.text := rfl
      rw [writeDocuments, runOn_bind, runOn_orElse, hwrite, writeIn] at h
      cases hfirst : s.writeText ((FilePath.ofText output).child (.text d.name)) d.text with
      | error e => simp [hfirst] at h
      | ok s₁ =>
          simp only [hfirst, mapError_ok] at h
          obtain ⟨location, hplace, halike, htext⟩ := writeText_eq_ok hfirst
          obtain ⟨hrest, hplaced, htexts⟩ := ih h
          -- no write moves a place, so it can be told from the last storage
          have hsame : s'.placeOf? (d.path output) = some location :=
            ((halike.trans hrest).placeOf? _).symm.trans hplace
          refine ⟨halike.trans hrest, List.forall_mem_cons.2 ⟨by simp [hsame], hplaced⟩, ?_⟩
          intro other
          rw [htexts, htext, textAfter, textAfter, List.foldl_cons, hsame]
          simp only [Option.some.injEq, eq_comm]

/-- Written documents with different texts can all be read exactly if their places are
different. -/
theorem forall_readText_iff {ds : List Document}
    (h : runOn (writeDocuments output ds) s = (.ok (), s'))
    (hdifferent : (ds.map Document.text).Nodup) :
    (∀ d ∈ ds, s'.readText (d.path output) = .ok d.text) ↔
      (ds.map fun d => s'.placeOf? (d.path output)).Nodup := by
  obtain ⟨-, hplaced, htexts⟩ := runOn_writeDocuments h
  rw [← forall_textAfter_iff hplaced hdifferent s.root.textAt]
  refine forall₂_congr fun d hd => ?_
  obtain ⟨location, hplace⟩ := Option.ne_none_iff_exists'.1 (hplaced d hd)
  obtain ⟨text, htext⟩ := @exists_textAfter (fun d => s'.placeOf? (d.path output)) _ _ hd
    location hplace (s.root.textAt location)
  rw [readText_of_placeOf? hplace ((htexts location).trans htext)]
  constructor
  · intro hown other hother
    obtain rfl : location = other := Option.some.inj (hplace.symm.trans hother)
    rw [htext, Except.ok.inj hown]
  · intro hown
    rw [Option.some.inj (htext.symm.trans (hown location hplace))]

/-! ## Namespaces -/

/-- The path of the file of a namespace. -/
def documentPath (output namespaceText : String) : FilePath :=
  (FilePath.ofText output).child (.text (Generator.documentName namespaceText))

/-- The file of each namespace holds the document of that namespace. -/
def HoldsAll (s : Storage) (output : String) (ns : List NamespaceDecl) : Prop :=
  ∀ n ∈ ns, s.readText (documentPath output n.name) = .ok n.encode.pretty

/-- Where the documents of some namespaces stand. -/
def placesOf (s : Storage) (output : String) (ns : List NamespaceDecl) : List (Option Location) :=
  ns.map fun n => s.placeOf? (documentPath output n.name)

/-- The names of the documents of some namespaces. -/
def documentNames (ns : List NamespaceDecl) : List String :=
  ns.map fun n => Generator.documentName n.name

theorem documentNames_eq_map (ns : List NamespaceDecl) :
    documentNames ns = (ns.map NamespaceDecl.name).map Generator.documentName := by
  rw [List.map_map]
  rfl

theorem placesOf_eq_map (s : Storage) (output : String) (ns : List NamespaceDecl) :
    placesOf s output ns
      = (documentNames ns).map fun name =>
          s.placeOf? ((FilePath.ofText output).child (.text name)) := by
  rw [documentNames, List.map_map]
  rfl

/-- The document of a namespace begins with its name. -/
theorem exists_print_encode (n : NamespaceDecl) :
    ∃ rest, n.encode.print 0
      = '\x7b' :: (Json.newline 1
          ++ (Json.quote "name" ++ (':' :: ' ' :: (Json.quote n.name ++ rest)))) := by
  have hprint : n.encode.print 0
      = '\x7b' :: Json.newline 1 ++ Json.quote "name" ++ [':', ' '] ++ Json.quote n.name
        ++ Json.printMembers 1 [("classes", .array (n.classes.map ClassDecl.encode))]
        ++ Json.newline 0 ++ ['\x7d'] := rfl
  rw [hprint]
  simp only [List.cons_append, List.append_assoc, List.nil_append]
  exact ⟨_, rfl⟩

theorem name_eq_of_pretty_eq {n m : NamespaceDecl} (h : n.encode.pretty = m.encode.pretty) :
    n.name = m.name := by
  obtain ⟨rest, hn⟩ := exists_print_encode n
  obtain ⟨rest', hm⟩ := exists_print_encode m
  have hprint : n.encode.print 0 = m.encode.print 0 := String.ofList_injective h
  rw [hn, hm] at hprint
  simp only [List.append_cancel_left_eq, List.cons.injEq, true_and] at hprint
  exact Json.eq_of_quote_append hprint

/-- **Namespaces are generated exactly if each stage succeeds**: the model is read, the views are
found, the configured types are types, and the namespaces of all controllers are known. -/
theorem namespacesOf_eq_ok_iff {modelPath root : String} {config : ProjectConfig}
    {ns : List NamespaceDecl} :
    namespacesOf s modelPath root config = .ok ns ↔
      ∃ text model views g, s.readText (.ofText modelPath) = .ok text ∧
        Model.ofText text = .ok model ∧ viewsOf s config.views root = .ok views ∧
        Generator.ofConfig config.generator = .ok g ∧
        (∀ c ∈ model.controllers, c.resolvedNamespace ≠ none) ∧
        ns = (Generator.namespaceTexts model.controllers).map
          (g.namespaceOf model.controllers views) := by
  unfold namespacesOf
  cases s.readText (.ofText modelPath) with
  | error e => simp
  | ok text =>
      simp only
      cases hmodel : Model.ofText text with
      | error e => simp [hmodel]
      | ok model =>
          simp only
          cases viewsOf s config.views root with
          | error e => simp
          | ok views =>
              unfold namespacesFor
              cases Generator.ofConfig config.generator with
              | error e => simp
              | ok g => simp [mapError_eq_ok_iff, Generator.namespaces_eq_ok_iff, hmodel]

/-- The names of generated namespaces are different ones. -/
theorem nodup_names_of_namespacesOf {modelPath root : String} {config : ProjectConfig}
    {ns : List NamespaceDecl} (h : namespacesOf s modelPath root config = .ok ns) :
    (ns.map NamespaceDecl.name).Nodup := by
  obtain ⟨text, model, views, g, -, -, -, -, -, rfl⟩ := namespacesOf_eq_ok_iff.1 h
  rw [Generator.map_name_namespaceOf]
  exact Generator.nodup_namespaceTexts _

/-- After a generation, all documents are there exactly if their places are different ones. -/
theorem holdsAll_iff_nodup_placesOf {modelPath root : String} {config : ProjectConfig}
    {ns : List NamespaceDecl} {count : Nat} (hns : namespacesOf s modelPath root config = .ok ns)
    (h : runOn (generate modelPath root output config) s = (.ok count, s')) :
    count = ns.length ∧ none ∉ placesOf s' output ns ∧
      (HoldsAll s' output ns ↔ (placesOf s' output ns).Nodup) := by
  rw [runOn_generate, hns] at h
  obtain ⟨rfl, s₁, -, hwrite⟩ := writeNamespaces_eq_ok h
  obtain ⟨-, hplaced, htexts⟩ := runOn_writeDocuments hwrite
  have hplaces : placesOf s' output ns
      = (ns.map Document.ofNamespace).map fun d => s'.placeOf? (d.path output) := by
    rw [List.map_map]
    rfl
  have hdifferent : ((ns.map Document.ofNamespace).map Document.text).Nodup := by
    rw [List.map_map]
    have hnames := List.pairwise_map.1 (nodup_names_of_namespacesOf hns)
    refine List.pairwise_map.2 (hnames.imp fun hne heq => hne ?_)
    exact name_eq_of_pretty_eq heq
  refine ⟨rfl, ?_, ?_⟩
  · rw [hplaces]
    intro hnone
    obtain ⟨d, hd, heq⟩ := List.mem_map.1 hnone
    exact (runOn_writeDocuments hwrite).2.1 d hd heq
  · rw [hplaces, ← forall_readText_iff hwrite hdifferent, List.forall_mem_map]
    rfl

/-- Different names in one directory have different places, where they are no links. -/
theorem nodup_placesOf {ns : List NamespaceDecl} (hplaced : none ∉ placesOf s output ns)
    (hlinks : ∀ n ∈ ns, s.linkAt? (documentPath output n.name) = none)
    (hnames : (documentNames ns).Nodup) : (placesOf s output ns).Nodup := by
  have hplace : ∀ name ∈ documentNames ns, ∃ parent left,
      walk s.root linkLimit [] (s.absolute (FilePath.ofText output)).steps = .ok (parent, left) ∧
      s.placeOf? ((FilePath.ofText output).child (.text name))
        = some (parent.location ++ [.text name]) := by
    intro name hname
    obtain ⟨n, hn, rfl⟩ := List.mem_map.1 hname
    have hsome : s.placeOf? (documentPath output n.name) ≠ none :=
      fun hnone => hplaced (List.mem_map.2 ⟨n, hn, hnone⟩)
    obtain ⟨location, hlocation⟩ := Option.ne_none_iff_exists'.1 hsome
    obtain ⟨parent, left, hwalk, rfl⟩ := placeOf?_child hlocation (hlinks n hn)
    exact ⟨parent, left, hwalk, hlocation⟩
  -- all names stand in the one directory that the output path leads to
  rw [placesOf_eq_map]
  refine hnames.map_on fun name hname other hother heq => ?_
  obtain ⟨parent, left, hwalk, hnplace⟩ := hplace name hname
  obtain ⟨parent', left', hwalk', hmplace⟩ := hplace other hother
  obtain ⟨rfl, -⟩ : parent = parent' ∧ left = left' := by simpa [hwalk] using hwalk'
  rw [hnplace, hmplace] at heq
  simpa using heq

/-- **After a generation, all documents are there exactly if no two of them have the same place**,
and that is so exactly if there are as many of them as the generation tells. Their names are
different then, and where they are no links, different names are enough. -/
theorem holdsAll_iff_nodup {modelPath root : String} {config : ProjectConfig} {count : Nat}
    (h : runOn (generate modelPath root output config) s = (.ok count, s')) :
    ∃ ns, namespacesOf s modelPath root config = .ok ns ∧ (ns.map NamespaceDecl.name).Nodup ∧
      count = ns.length ∧
      (HoldsAll s' output ns ↔ (placesOf s' output ns).Nodup) ∧
      (count = (placesOf s' output ns).dedup.length ↔ (placesOf s' output ns).Nodup) ∧
      ((placesOf s' output ns).Nodup → (documentNames ns).Nodup) ∧
      ((∀ n ∈ ns, s'.linkAt? (documentPath output n.name) = none) →
        (documentNames ns).Nodup → (placesOf s' output ns).Nodup) := by
  cases hns : namespacesOf s modelPath root config with
  | error e => simp [runOn_generate, hns] at h
  | ok ns =>
      obtain ⟨rfl, hplaced, hiff⟩ := holdsAll_iff_nodup_placesOf hns h
      have hlength : ns.length = (placesOf s' output ns).length := by
        rw [placesOf, List.length_map]
      refine ⟨ns, rfl, nodup_names_of_namespacesOf hns, rfl, hiff, ?_, ?_,
        nodup_placesOf hplaced⟩
      · rw [hlength, eq_comm, (List.dedup_sublist _).length_eq, List.dedup_eq_self]
      · intro hplaces
        rw [placesOf_eq_map] at hplaces
        exact hplaces.of_map _

theorem eq_ok_of_fst {ε α σ : Type} {x : Except ε α × σ} {a : α} (h : x.1.toOption = some a) :
    x = (.ok a, x.2) :=
  Prod.ext (eq_ok_of_toOption h) rfl

/-- A storage with a model of two controllers in two namespaces. -/
def twoControllers (first second : String) : Storage where
  root := .directory [(.text "model.json", .file (
    "\x7b\"controllers\":[\x7b\"name\":\"Home\",\"namespace\":\"" ++ first
      ++ "\"\x7d,\x7b\"name\":\"Page\",\"namespace\":\"" ++ second ++ "\"\x7d]\x7d"))]
  workingDirectory := []

/-- A generation for two controllers, and the storage behind it. -/
def generateTwo (first second : String) : Except Error Nat × Storage :=
  runOn (generate "model.json" "." "out" {}) (twoControllers first second)

/-- The namespaces that are generated for two controllers. -/
def namespacesOfTwo (first second : String) : Except Error (List NamespaceDecl) :=
  namespacesOf (twoControllers first second) "model.json" "." {}

/-- The documents of two ordinary namespaces are both there. -/
theorem holdsAll_ordinaryNamespaces :
    ∃ s' ns, generateTwo "App.Home" "App.Page" = (.ok 2, s') ∧
      namespacesOfTwo "App.Home" "App.Page" = .ok ns ∧ HoldsAll s' "out" ns := by
  have hfacts : (generateTwo "App.Home" "App.Page").1.toOption = some 2 ∧
      (namespacesOfTwo "App.Home" "App.Page").toOption.map (List.map NamespaceDecl.name)
        = some ["App.Home", "App.Page"] ∧
      ∀ name ∈ ["App.Home", "App.Page"],
        (generateTwo "App.Home" "App.Page").2.linkAt? (documentPath "out" name) = none := by
    decide +kernel
  obtain ⟨hcount, hknown, hlinks⟩ := hfacts
  have hrun := eq_ok_of_fst hcount
  obtain ⟨ns, hns, -, -, hiff, -, -, hplaces⟩ := holdsAll_iff_nodup hrun
  have hnames : ns.map NamespaceDecl.name = ["App.Home", "App.Page"] := by
    rw [namespacesOfTwo, hns] at hknown
    exact Option.some.inj hknown
  refine ⟨_, ns, hrun, hns, hiff.2 (hplaces ?_ ?_)⟩
  · intro n hn
    exact hlinks n.name (hnames ▸ List.mem_map_of_mem hn)
  · rw [documentNames_eq_map, hnames]
    decide

/-- Two namespaces that differ in a separator have one document name: the document of the first is
lost, though the generation succeeds. -/
theorem not_holdsAll_separators :
    ¬∀ (s s' : Storage) (modelPath root output : String) (config : ProjectConfig) (count : Nat)
        (ns : List NamespaceDecl),
      runOn (generate modelPath root output config) s = (.ok count, s') →
      namespacesOf s modelPath root config = .ok ns → HoldsAll s' output ns := by
  intro hall
  -- both names are the same in snake case
  have hfacts : (generateTwo "App.Home" "App_Home").1.toOption = some 2 ∧
      (namespacesOfTwo "App.Home" "App_Home").toOption.map (List.map NamespaceDecl.name)
        = some ["App.Home", "App_Home"] := by
    decide +kernel
  obtain ⟨hcount, hknown⟩ := hfacts
  have hrun := eq_ok_of_fst hcount
  obtain ⟨ns, hns, hnames⟩ := Option.map_eq_some_iff.1 hknown
  have hns : namespacesOfTwo "App.Home" "App_Home" = .ok ns := eq_ok_of_toOption hns
  obtain ⟨-, -, hiff⟩ := holdsAll_iff_nodup_placesOf hns hrun
  have hplaces := hiff.1 (hall _ _ _ _ _ _ _ ns hrun hns)
  rw [placesOf_eq_map, documentNames_eq_map, hnames] at hplaces
  exact absurd (hplaces.of_map _) (by decide)

end ControllerCompanion.Project
