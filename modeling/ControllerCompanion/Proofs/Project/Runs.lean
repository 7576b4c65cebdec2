import ControllerCompanion.Project
import ControllerCompanion.Proofs.Outcome

set_option autoImplicit false

/-! # Generating on a storage

A generation on a storage as an equation: what is generated depends on the storage, and nothing is
changed before it is there (`runOn_generate`). -/

namespace ControllerCompanion.Project

/-! ## Runs -/

/-- What a computation on a storage gives, with the storage that it leaves. -/
def runOn {α : Type} (x : ExceptT Error (StateM Storage) α) (s : Storage) :
    Except Error α × Storage :=
  x.run.run s

variable {α β : Type} {s : Storage}

@[simp] theorem runOn_pure (a : α) (s : Storage) : runOn (pure a) s = (.ok a, s) := rfl

theorem runOn_bind (x : ExceptT Error (StateM Storage) α) (f : α → ExceptT Error (StateM Storage) β)
    (s : Storage) :
    runOn (x >>= f) s
      = match runOn x s with
        | (.ok a, s') => runOn (f a) s'
        | (.error e, s') => (.error e, s') := by
  have hrun : runOn (x >>= f) s = (match runOn x s with
      | (r, s') => (ExceptT.bindCont f r).run s') := rfl
  rw [hrun]
  rcases runOn x s with ⟨_ | a, s'⟩
  · rfl
  · rfl

@[simp] theorem runOn_orElse {ε : Type} (tell : ε → Error) (r : StateM Storage (Except ε α))
    (s : Storage) : runOn (orElse tell r) s = ((r s).1.mapError tell, (r s).2) := rfl

/-! ## Generating -/

/-- The views of a project in a storage. -/
def viewsOf (s : Storage) (config : ViewLocatorConfig) (root : String) :
    Except ScanError (List View) :=
  match s.find root with
  | .error e => .error (.io e)
  | .ok found => (Locator.views config found.path found.node).mapError .path

/-- The namespaces that are generated for a model and some views. -/
def namespacesFor (config : GeneratorConfig) (model : Model) (views : List View) :
    Except Error (List NamespaceDecl) :=
  match Generator.ofConfig config with
  | .error e => .error (.config e)
  | .ok g => (g.namespaces model.controllers views).mapError .unresolved

/-- The namespaces that are generated for a project in a storage. -/
def namespacesOf (s : Storage) (modelPath root : String) (config : ProjectConfig) :
    Except Error (List NamespaceDecl) :=
  match s.readText (.ofText modelPath) with
  | .error e => .error (.io e)
  | .ok text =>
    match Model.ofText text with
    | .error e => .error (.ofUnreadable e)
    | .ok model =>
      match viewsOf s config.views root with
      | .error e => .error (.views e)
      | .ok views => namespacesFor config.generator model views

/-- Writes the documents of some namespaces to a directory that is made first, and gives their
    number. -/
def writeNamespaces (output : String) (ns : List NamespaceDecl) :
    ExceptT Error (StateM Storage) Nat := do
  orElse .io (Disk.makeDirectories output)
  writeDocuments output (ns.map .ofNamespace)
  return ns.length

/-- Writing namespaces that succeeds has made the directory, and written all documents to it. -/
theorem writeNamespaces_eq_ok {output : String} {ns : List NamespaceDecl} {count : Nat}
    {s' : Storage} (h : runOn (writeNamespaces output ns) s = (.ok count, s')) :
    count = ns.length ∧ ∃ s₁, s.makeDirectories (.ofText output) = (.ok (), s₁) ∧
      runOn (writeDocuments output (ns.map Document.ofNamespace)) s₁ = (.ok (), s') := by
  have hdisk : (Disk.makeDirectories output : StateM Storage _) s
      = s.makeDirectories (.ofText output) := rfl
  simp only [writeNamespaces, runOn_bind, runOn_orElse, hdisk] at h
  rcases hmake : s.makeDirectories (.ofText output) with ⟨_ | u, s₁⟩
  · simp [hmake] at h
  simp only [hmake, mapError_ok] at h
  rcases hwrite : runOn (writeDocuments output (ns.map Document.ofNamespace)) s₁ with ⟨_ | u, s₂⟩
  · simp [hwrite] at h
  obtain ⟨rfl, rfl⟩ : ns.length = count ∧ s₂ = s' := by simpa [hwrite] using h
  exact ⟨rfl, s₁, rfl, hwrite⟩

theorem findViews_eq (config : ViewLocatorConfig) (root : String) (s : Storage) :
    (findViews config root : StateM Storage _) s = (viewsOf s config root, s) := by
  have hfind : (findViews config root : StateM Storage _) s
      = (match s.find root with
        | .error e => pure (.error (.io e))
        | .ok found => pure ((Locator.views config found.path found.node).mapError .path) :
          StateM Storage _) s := rfl
  rw [hfind, viewsOf]
  cases s.find root with
  | error e => rfl
  | ok found => rfl

theorem documents_eq (config : GeneratorConfig) (model : Model) (views : List View) :
    documents config model views
      = (namespacesFor config model views).map (List.map Document.ofNamespace) := by
  unfold documents namespacesFor
  cases Generator.ofConfig config with
  | error e => rfl
  | ok g =>
      simp only
      cases g.namespaces model.controllers views with
      | error e => rfl
      | ok ns => rfl

/-- **A generation writes what is generated for the project, and nothing if that fails.** -/
theorem runOn_generate (modelPath root output : String) (config : ProjectConfig) (s : Storage) :
    runOn (generate modelPath root output config) s
      = match namespacesOf s modelPath root config with
        | .error e => (.error e, s)
        | .ok ns => runOn (writeNamespaces output ns) s := by
  have hread (path : String) : (Disk.readText path : StateM Storage _) s
      = (s.readText (.ofText path), s) := rfl
  simp only [generate, loadModel, runOn_bind, runOn_orElse, hread, namespacesOf]
  cases s.readText (.ofText modelPath) with
  | error e => rfl
  | ok text =>
      have hpure {ε α : Type} (x : Except ε α) : (pure x : StateM Storage _) s = (x, s) := rfl
      simp only [mapError_ok, hpure]
      cases Model.ofText text with
      | error e => rfl
      | ok model =>
          simp only [mapError_ok, findViews_eq]
          cases viewsOf s config.views root with
          | error e => rfl
          | ok views =>
              simp only [mapError_ok, documents_eq, hpure]
              cases namespacesFor config.generator model views with
              | error e => rfl
              | ok ns =>
                  simp only [Except.map, mapError_ok, writeNamespaces, runOn_bind, runOn_orElse,
                    List.length_map]

end ControllerCompanion.Project
