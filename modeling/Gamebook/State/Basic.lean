import Gamebook.State.Sheet
import Gamebook.State.Tree
import Gamebook.Text.Split

/-!
# The state of a story

A state is a tree of named values with distinct keys. Its leaves are listed by dotted paths on a
sheet (`State.flatten`), and a sheet makes up a state again (`Sheet.rebuild`), where a later path
wins over the earlier ones that it collides with. `State.merge` overlays two states leaf by leaf.
-/

namespace Gamebook

/-- Named values in order: leaves and tables of further values, with distinct keys. -/
structure State where
  /-- The entries. -/
  tree : Tree
  /-- No key occurs twice in a table. -/
  distinct : tree.Distinct

namespace State

/-- What is stored under a key of a state. -/
inductive Entry where
  /-- A leaf. -/
  | scalar (leaf : Scalar)
  /-- A table. -/
  | table (sub : State)

/-- The value of an entry. -/
def Entry.value : Entry → Tree.Value
  | .scalar leaf => .scalar leaf
  | .table sub => .table sub.tree

/-- An entry has distinct keys. -/
theorem Entry.distinct (entry : Entry) : entry.value.Distinct :=
  match entry with
  | .scalar _ => trivial
  | .table sub => sub.distinct

/-- The state without entries. -/
def empty : State where
  tree := .nil
  distinct := trivial

/-- Whether there are no entries. -/
def isEmpty (state : State) : Bool :=
  state.tree.size == 0

/-- The keys in order. -/
def keys (state : State) : List String :=
  state.tree.keys

/-- How many entries there are at the top. -/
def size (state : State) : Nat :=
  state.tree.size

/-- The entry under a key. -/
def get? (state : State) (key : String) : Option Entry :=
  match h : state.tree.get? key with
  | none => none
  | some (.scalar leaf) => some (.scalar leaf)
  | some (.table sub) => some (.table ⟨sub, state.distinct.of_get? h⟩)

/-- Whether a key is present. -/
def contains (state : State) (key : String) : Bool :=
  (state.tree.get? key).isSome

/-- The state with an entry under a key: in the key's place, or at the end if the key is new. -/
def insert (state : State) (key : String) (entry : Entry) : State where
  tree := state.tree.insert key entry.value
  distinct := state.distinct.insert key entry.distinct

/-- The state without a key. -/
def erase (state : State) (key : String) : State where
  tree := state.tree.erase key
  distinct := state.distinct.erase key

/-- Whether two states have equal entries in any order. -/
def agrees (state other : State) : Bool :=
  state.tree.agrees other.tree

/-- States with the same entries in the same order are equal. -/
@[ext]
theorem ext {a b : State} (h : a.tree = b.tree) : a = b := by
  obtain ⟨a, _⟩ := a
  obtain ⟨b, _⟩ := b
  simp only at h
  subst h
  rfl

end State

/-- The keys on a path, joined by dots. -/
def joinPath (path : List String) : String :=
  .ofList (Text.joinWith ['.'] (path.map String.toList))

/-- The keys on a dotted path. -/
def splitPath (path : String) : List String :=
  (Text.splitOn '.' path.toList).map String.ofList

/-- The leaf at a dotted path. -/
def State.lookup? (state : State) (path : String) : Option Scalar :=
  state.tree.lookup? (splitPath path)

/-- The leaves of a tree by their dotted paths, depth first. -/
def Tree.flatten (tree : Tree) : Sheet :=
  .ofList (tree.leaves.map fun (path, value) => (joinPath path, value))

/-- The leaves of a state by their dotted paths, depth first. -/
def State.flatten (state : State) : Sheet :=
  state.tree.flatten

/-- The state with a leaf at the end of a path. -/
def State.insertPath (state : State) (path : List String) (leaf : Scalar) : State where
  tree := state.tree.insertPath path leaf
  distinct := state.distinct.insertPath path leaf

/-- The state that has the leaves of a sheet, where a later path wins over colliding ones. -/
def Sheet.rebuild (sheet : Sheet) : State :=
  sheet.entries.foldl (fun state (path, leaf) => state.insertPath (splitPath path) leaf) .empty

/-- The leaves of a state overlaid with those of another one. -/
def State.merge (state upper : State) : State :=
  (state.flatten.overlay upper.flatten).rebuild

end Gamebook
