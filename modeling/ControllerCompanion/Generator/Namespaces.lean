import ControllerCompanion.Generator.OverrideClass
import ControllerCompanion.Generator.PartialClass
import ControllerCompanion.Generator.ViewsClass
import ControllerCompanion.Text.SnakeCase

set_option autoImplicit false

/-! # Generated namespaces

The result of a generation: a namespace for each namespace that has controllers, with the partial
class and the override class of each of them. -/

namespace ControllerCompanion.Generator

/-! ## Grouping -/

/-- The controllers by their namespaces, with an index that says where the group of a namespace
    stands. -/
structure Grouping where
  /-- The groups, in the order in which their namespaces first come up. -/
  groups : List (String × List Controller)
  /-- The place of each group. -/
  places : List (String × Nat)
  /-- The index has the place of every group, and nothing else. -/
  indexed : ∀ ns i, places.lookup ns = some i ↔ (groups.map Prod.fst)[i]? = some ns

namespace Grouping

/-- No groups at all. -/
def empty : Grouping where
  groups := []
  places := []
  indexed := by simp

/-- Puts a controller behind the others of a group. -/
def join (c : Controller) (group : String × List Controller) : String × List Controller :=
  (group.1, group.2 ++ [c])

theorem keys_modify_join (c : Controller) (i : Nat) (groups : List (String × List Controller)) :
    (groups.modify i (join c)).map Prod.fst = groups.map Prod.fst := by
  induction groups generalizing i with
  | nil => rw [List.modify_nil]
  | cons group groups ih =>
      cases i with
      | zero => rfl
      | succ i => rw [List.modify_succ_cons, List.map_cons, List.map_cons, ih]

/-- Adds a controller to the group at a place. -/
def addAt (gr : Grouping) (i : Nat) (c : Controller) : Grouping where
  groups := gr.groups.modify i (join c)
  places := gr.places
  indexed := by
    rw [keys_modify_join]
    exact gr.indexed

theorem getElem?_concat_eq_some_iff {keys : List String} {key other : String} {i : Nat} :
    (keys ++ [key])[i]? = some other ↔
      keys[i]? = some other ∨ i = keys.length ∧ key = other := by
  rcases Nat.lt_trichotomy i keys.length with h | rfl | h
  · simp [List.getElem?_append_left h, Nat.ne_of_lt h]
  · simp
  · have hbehind : (keys ++ [key]).length ≤ i := by
      rw [List.length_append, List.length_singleton]
      exact h
    simp [List.getElem?_eq_none hbehind, List.getElem?_eq_none (Nat.le_of_lt h), Nat.ne_of_gt h]

/-- Adds a group with one controller behind the others. -/
def addGroup (gr : Grouping) (ns : String) (c : Controller) (hnew : gr.places.lookup ns = none) :
    Grouping where
  groups := gr.groups ++ [(ns, [c])]
  places := (ns, gr.groups.length) :: gr.places
  indexed := by
    intro other i
    rw [List.map_append, List.map_singleton, getElem?_concat_eq_some_iff, List.length_map,
      ← gr.indexed, List.lookup_cons]
    by_cases h : other = ns
    · subst h
      simp [hnew, eq_comm]
    · simp [beq_false_of_ne h, Ne.symm h]

/-- Adds a controller to the group of its namespace, or as a new group. -/
def add (gr : Grouping) (ns : String) (c : Controller) : Grouping :=
  match h : gr.places.lookup ns with
  | some i => gr.addAt i c
  | none => gr.addGroup ns c h

/-- Adds controllers, each to the group of its namespace, which must be known. -/
def addAll (gr : Grouping) : List Controller → Except Unresolved Grouping
  | [] => .ok gr
  | c :: cs =>
    match resolve c with
    | .error e => .error e
    | .ok ns => (gr.add ns c).addAll cs

end Grouping

/-- The controllers by their namespaces, in the order in which these first come up. -/
def groupByNamespace (cs : List Controller) :
    Except Unresolved (List (String × List Controller)) :=
  (Grouping.empty.addAll cs).map Grouping.groups

/-! ## Generating -/

/-- Adds the two classes of each controller to a namespace. -/
def addControllers (g : Generator) (area : String) (views : ClassDecl) (n : NamespaceDecl) :
    List Controller → Except Unresolved NamespaceDecl
  | [] => .ok n
  | c :: cs =>
    match g.overrideClass c with
    | .error e => .error e
    | .ok overrides =>
      g.addControllers area views
        ((n.addClass (g.partialClass c area views)).addClass overrides) cs

/-- The namespaces of groups of controllers. -/
def namespacesOfGroups (g : Generator) (views : ClassDecl) :
    List (String × List Controller) → Except Unresolved (List NamespaceDecl)
  | [] => .ok []
  | (ns, cs) :: groups =>
    match g.addControllers (g.areaOf ns) views (.empty ns) cs with
    | .error e => .error e
    | .ok n => (g.namespacesOfGroups views groups).map (n :: ·)

/-- The namespaces of a list of controllers. All of them share the class of the views. -/
def namespaces (g : Generator) (cs : List Controller) (views : List View) :
    Except Unresolved (List NamespaceDecl) :=
  match groupByNamespace cs with
  | .error e => .error e
  | .ok groups => g.namespacesOfGroups (viewsClass views).1 groups

/-! ## Documents -/

/-- The name of the file that a namespace is written to. -/
def documentName (namespaceText : String) : String :=
  Text.snakeCase namespaceText ++ ".json"

end ControllerCompanion.Generator
