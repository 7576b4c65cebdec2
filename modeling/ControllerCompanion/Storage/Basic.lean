import ControllerCompanion.Storage.Tree

set_option autoImplicit false

/-! # Storages

A storage is a file system as a program sees it: a tree, and the directory that the program works
in. An absolute path leads from the root, another one from the working directory; symbolic links
are followed, but not without end. -/

namespace ControllerCompanion

/-- Why an operation on files fails. -/
inductive IoError where
  | notFound
  | notADirectory
  | isADirectory
  | alreadyExists
  | filesystemLoop
  | invalidFilename
  | invalidInput
  | other
  deriving Repr, DecidableEq

/-- A file system with a working directory. -/
structure Storage where
  root : Node
  workingDirectory : Location
  deriving Inhabited

namespace Storage

/-! ## Looking up -/

/-- How many links may be followed on one path. -/
def linkLimit : Nat := 40

/-- The longest name of a file, in bytes. -/
def longestName : Nat := 255

/-- The longest text of a path that a file system is asked for, in bytes. -/
def longestPath : Nat := 4095

/-- How far steps lead without a link: to the end, or to a link in a directory, with the steps
    behind it. -/
inductive Reach where
  | arrived (trail : Trail)
  | link (directory : Trail) (target : String) (behind : List Step)

/-- How far steps lead from the end of a trail without a link. Only a directory can be stepped
    through. -/
def reach (root : Node) (trail : Trail) : List Step → Except IoError Reach
  | [] => .ok (.arrived trail)
  | step :: rest =>
    match Trail.node root trail with
    | .directory entries =>
      match step with
      | .here => reach root trail rest
      | .up => reach root trail.tail rest
      | .into name =>
        if longestName < name.bytes.length then .error .invalidFilename
        else
          match entries.lookup name with
          | none => .error .notFound
          | some (.link target) => .ok (.link trail target rest)
          | some n => reach root ((name, n) :: trail) rest
    | _ => .error .notADirectory

/-- Where the target of a link begins, by the trail to the directory of the link. -/
def targetStart (directory : Trail) (target : FilePath) : Trail :=
  if target.isAbsolute then [] else directory

/-- Where steps lead from the end of a trail, if `links` more links may be followed, and how many
    more may be followed then. -/
def walk (root : Node) (links : Nat) (trail : Trail) (steps : List Step) :
    Except IoError (Trail × Nat) :=
  match reach root trail steps with
  | .error e => .error e
  | .ok (.arrived trail) => .ok (trail, links)
  | .ok (.link directory target behind) =>
    match links with
    | 0 => .error .filesystemLoop
    | links + 1 =>
      let target := FilePath.ofText target
      walk root links (targetStart directory target) (target.lookupSteps ++ behind)

/-- Whether a name that is looked up holds the character that ends names. -/
def hasNul : Step → Bool
  | .into name => name.bytes.contains 0
  | _ => false

/-- Refuses paths that no file system is asked for, whatever their length. -/
def checkSteps (p : FilePath) : Except IoError Unit :=
  if p.steps.any hasNul then .error .invalidInput
  else if p.isEmpty then .error .notFound
  else .ok ()

/-- Refuses paths that no file system is asked for. -/
def checkPath (p : FilePath) : Except IoError Unit :=
  match checkSteps p with
  | .error e => .error e
  | .ok () => if longestPath < p.length then .error .invalidFilename else .ok ()

/-- The path from the root that a path stands for. -/
def absolute (s : Storage) (p : FilePath) : FilePath :=
  if p.isAbsolute then p
  else { p with isAbsolute := true, steps := s.workingDirectory.map .into ++ p.steps }

/-- Where steps lead from the root. -/
def follow (s : Storage) (steps : List Step) : Except IoError Trail :=
  (walk s.root linkLimit [] steps).map Prod.fst

/-- Whether steps lead to a directory. -/
def isDirectory (s : Storage) (steps : List Step) : Bool :=
  match s.follow steps with
  | .ok trail => (Trail.node s.root trail).isDirectory
  | .error _ => false

/-- Where a path leads, with all links followed. It is followed link by link, so that the length
    of its text does not matter. -/
def resolve (s : Storage) (p : FilePath) : Except IoError Trail :=
  match checkSteps p with
  | .error e => .error e
  | .ok () => s.follow (s.absolute p).lookupSteps

/-! ## Reading -/

/-- The text of a file. -/
def readText (s : Storage) (p : FilePath) : Except IoError String :=
  match checkPath p with
  | .error e => .error e
  | .ok () =>
    match s.follow (s.absolute p).lookupSteps with
    | .error e => .error e
    | .ok trail =>
      match Trail.node s.root trail with
      | .file text => .ok text
      | .directory _ => .error .isADirectory
      | .link _ => .error .notFound

/-! ## Making directories -/

/-- The storage with a node at a location. -/
def put (s : Storage) (location : Location) (n : Node) : Storage :=
  { s with root := Node.put n s.root location }

/-- Makes the directory that steps lead to, in one that exists. -/
def makeDirectory (s : Storage) (steps : List Step) : Except IoError Storage :=
  match s.follow steps.dropLast with
  | .error e => .error e
  | .ok trail =>
    match Trail.node s.root trail, steps.getLast? with
    | .directory entries, some (.into name) =>
      if longestName < name.bytes.length then .error .invalidFilename
      else if (entries.lookup name).isSome then .error .alreadyExists
      else .ok (s.put (Trail.location trail ++ [name]) (.directory []))
    | .directory _, _ => .error .alreadyExists
    | _, _ => .error .notADirectory

/-- Makes the directory that steps lead to, given backwards, and those it lies in. What was made
    stays, also if a later one fails. -/
def makeDirectoriesBackwards (s : Storage) : List Step → Except IoError Unit × Storage
  | [] => (.ok (), s)
  | step :: steps =>
    let path := (step :: steps).reverse
    let settle (s : Storage) (e : IoError) : Except IoError Unit × Storage :=
      (if s.isDirectory path then .ok () else .error e, s)
    match s.makeDirectory path with
    | .ok s => (.ok (), s)
    | .error .notFound =>
      match s.makeDirectoriesBackwards (FilePath.parentBackwards (step :: steps)) with
      | (.error e, s) => (.error e, s)
      | (.ok (), s) =>
        match s.makeDirectory path with
        | .ok s => (.ok (), s)
        | .error e => settle s e
    | .error e => settle s e
  termination_by steps => steps.length
  decreasing_by exact FilePath.length_parentBackwards_lt

/-- Makes the directory of a path, and those it lies in. The empty path needs none. -/
def makeDirectories (s : Storage) (p : FilePath) : Except IoError Unit × Storage :=
  if p.isEmpty then (.ok (), s)
  else
    match checkPath p with
    | .error e => (.error e, s)
    | .ok () => s.makeDirectoriesBackwards (s.absolute p).steps.reverse

/-! ## Writing -/

/-- Following links takes from their number. -/
theorem links_le_of_walk {root : Node} {links left : Nat} {trail arrived : Trail}
    {steps : List Step} (h : walk root links trail steps = .ok (arrived, left)) : left ≤ links := by
  induction links generalizing trail steps with
  | zero =>
    unfold walk at h
    split at h
    · cases h
    · cases h
      exact Nat.le_refl _
    · cases h
  | succ links ih =>
    unfold walk at h
    split at h
    · cases h
    · cases h
      exact Nat.le_refl _
    · exact Nat.le_succ_of_le (ih h)

/-- The location of the file that a path leads to from the end of a trail, which need not exist:
    links are followed, also at the end. -/
def place (root : Node) (links : Nat) (trail : Trail) (p : FilePath) : Except IoError Location :=
  match h : walk root links trail p.steps.dropLast with
  | .error e => .error e
  | .ok (directory, left) =>
    match Trail.node root directory, p.steps.getLast? with
    | .directory entries, some (.into name) =>
      if p.asksDirectory then .error .isADirectory
      else if longestName < name.bytes.length then .error .invalidFilename
      else
        match entries.lookup name with
        | some (.directory _) => .error .isADirectory
        | some (.link target) =>
          match left, links_le_of_walk h with
          | 0, _ => .error .filesystemLoop
          | left + 1, _ =>
            let target := FilePath.ofText target
            place root left (targetStart directory target) target
        | _ => .ok (Trail.location directory ++ [name])
    | .directory _, _ => .error .isADirectory
    | _, _ => .error .notADirectory
  termination_by links

/-- Writes the text of a file. -/
def writeText (s : Storage) (p : FilePath) (text : String) : Except IoError Storage :=
  match checkPath p with
  | .error e => .error e
  | .ok () =>
    match place s.root linkLimit [] (s.absolute p) with
    | .error e => .error e
    | .ok location => .ok (s.put location (.file text))

end Storage

end ControllerCompanion
