import Gamebook.State.Scalar

/-!
# Trees of named values

A tree is an ordered list of entries, each a leaf or a table of further entries under a key. A tree
is `Distinct` if no key occurs twice in a table. Main definitions: `Tree`, `Tree.get?`,
`Tree.insert`, `Tree.erase`, `Tree.insertPath`, and `Tree.agrees`, the equality that ignores order.
Main statements: the insertions and the removal keep keys distinct.
-/

namespace Gamebook

/-- Entries in order, each a leaf or a table under a key. -/
inductive Tree where
  /-- No entry. -/
  | nil
  /-- A leaf before the other entries. -/
  | leaf (key : String) (value : Scalar) (rest : Tree)
  /-- A table before the other entries. -/
  | table (key : String) (sub rest : Tree)
  deriving DecidableEq

/-- What is stored under a key. -/
inductive Tree.Value where
  /-- A leaf. -/
  | scalar (leaf : Scalar)
  /-- A table. -/
  | table (sub : Tree)
  deriving DecidableEq

namespace Tree

/-- The keys of the entries. -/
def keys : Tree → List String
  | nil => []
  | leaf key _ rest => key :: rest.keys
  | table key _ rest => key :: rest.keys

/-- No key occurs twice, neither here nor in a table below. -/
def Distinct : Tree → Prop
  | nil => True
  | leaf key _ rest => key ∉ rest.keys ∧ rest.Distinct
  | table key sub rest => key ∉ rest.keys ∧ sub.Distinct ∧ rest.Distinct

/-- The keys of a value's tables are distinct. -/
def Value.Distinct : Value → Prop
  | .scalar _ => True
  | .table sub => sub.Distinct

/-- The value under a key. -/
def get? (key : String) : Tree → Option Value
  | nil => none
  | leaf k value rest => if k = key then some (.scalar value) else rest.get? key
  | table k sub rest => if k = key then some (.table sub) else rest.get? key

/-- An entry before others. -/
def cons (key : String) : Value → Tree → Tree
  | .scalar value, rest => leaf key value rest
  | .table sub, rest => table key sub rest

/-- The tree with a value under a key: in the key's place, or at the end if the key is new. -/
def insert (key : String) (value : Value) : Tree → Tree
  | nil => cons key value nil
  | leaf k v rest =>
    if k = key then cons key value rest else leaf k v (rest.insert key value)
  | table k sub rest =>
    if k = key then cons key value rest else table k sub (rest.insert key value)

/-- The tree without a key. -/
def erase (key : String) : Tree → Tree
  | nil => nil
  | leaf k v rest => if k = key then rest else leaf k v (rest.erase key)
  | table k sub rest => if k = key then rest else table k sub (rest.erase key)

/-- The table under a key, or an empty one. -/
def subtable (key : String) (tree : Tree) : Tree :=
  match tree.get? key with
  | some (.table sub) => sub
  | _ => nil

/--
The tree with a leaf at the end of a path. Tables on the way are made as needed, also in the place
of a leaf.
-/
def insertPath : (path : List String) → Scalar → Tree → Tree
  | [], _, tree => tree
  | [key], value, tree => tree.insert key (.scalar value)
  | key :: next :: path, value, tree =>
    tree.insert key (.table (insertPath (next :: path) value (tree.subtable key)))

/-- The leaf at the end of a path. -/
def lookup? : (path : List String) → Tree → Option Scalar
  | [], _ => none
  | [key], tree =>
    match tree.get? key with
    | some (.scalar value) => some value
    | _ => none
  | key :: next :: path, tree =>
    match tree.get? key with
    | some (.table sub) => lookup? (next :: path) sub
    | _ => none

/-- The leaves with their paths, depth first. -/
def leaves : Tree → List (List String × Scalar)
  | nil => []
  | leaf key value rest => ([key], value) :: rest.leaves
  | table key sub rest => sub.leaves.map (fun (path, value) => (key :: path, value)) ++ rest.leaves

/-- How many entries there are at the top. -/
def size (tree : Tree) : Nat :=
  tree.keys.length

/-- Whether each entry of a tree has an equal entry in another one. -/
def within : Tree → Tree → Bool
  | nil, _ => true
  | leaf key value rest, other =>
    (match other.get? key with
      | some (.scalar found) => value.agrees found
      | _ => false) && rest.within other
  | table key sub rest, other =>
    (match other.get? key with
      | some (.table found) => sub.size == found.size && sub.within found
      | _ => false) && rest.within other

/-- Whether two trees have equal entries in any order. -/
def agrees (tree other : Tree) : Bool :=
  tree.size == other.size && tree.within other

/-- The keys of an entry before others. -/
@[simp]
theorem keys_cons (key : String) (value : Value) (rest : Tree) :
    (cons key value rest).keys = key :: rest.keys := by
  cases value <;> rfl

/-- When an entry before others keeps keys distinct. -/
@[simp]
theorem distinct_cons (key : String) (value : Value) (rest : Tree) :
    (cons key value rest).Distinct ↔ key ∉ rest.keys ∧ value.Distinct ∧ rest.Distinct := by
  cases value <;> simp [cons, Distinct, Value.Distinct]

/-- The value under a key after an entry is put before others. -/
@[simp]
theorem get?_cons (key other : String) (value : Value) (rest : Tree) :
    (cons key value rest).get? other = if key = other then some value else rest.get? other := by
  cases value <;> rfl

/-- An insertion keeps the keys, and appends the key if it is new. -/
theorem keys_insert (key : String) (value : Value) (tree : Tree) :
    (tree.insert key value).keys =
      if key ∈ tree.keys then tree.keys else tree.keys ++ [key] := by
  induction tree with
  | nil => simp [insert, keys]
  | leaf k v rest ih =>
    by_cases h : k = key
    · simp [insert, keys, h]
    · simp only [insert, h, if_false, keys, ih, List.mem_cons, Ne.symm h, false_or]
      split <;> simp
  | table k sub rest _ ih =>
    by_cases h : k = key
    · simp [insert, keys, h]
    · simp only [insert, h, if_false, keys, ih, List.mem_cons, Ne.symm h, false_or]
      split <;> simp

/-- An insertion changes the value under its key and no other. -/
theorem get?_insert (key other : String) (value : Value) (tree : Tree) :
    (tree.insert key value).get? other = if other = key then some value else tree.get? other := by
  induction tree with
  | nil => by_cases h : other = key <;> simp [insert, get?, h, Ne.symm]
  | leaf k v rest ih =>
    by_cases h : k = key
    · by_cases ho : other = key <;> simp [insert, get?, h, ho, Ne.symm]
    · by_cases ho : k = other
      · have : ¬ other = key := fun e => h (ho.trans e)
        simp [insert, get?, ho, this]
      · simp [insert, get?, h, ho, ih]
  | table k sub rest _ ih =>
    by_cases h : k = key
    · by_cases ho : other = key <;> simp [insert, get?, h, ho, Ne.symm]
    · by_cases ho : k = other
      · have : ¬ other = key := fun e => h (ho.trans e)
        simp [insert, get?, ho, this]
      · simp [insert, get?, h, ho, ih]

/-- A value of a tree with distinct keys has distinct keys. -/
theorem Distinct.of_get? {tree : Tree} (h : tree.Distinct) {key : String} {value : Value}
    (hv : tree.get? key = some value) : value.Distinct := by
  induction tree with
  | nil => simp [get?] at hv
  | leaf k v rest ih =>
    simp only [get?] at hv
    split at hv
    · cases hv
      trivial
    · exact ih h.2 hv
  | table k sub rest _ ih =>
    simp only [get?] at hv
    split at hv
    · cases hv
      exact h.2.1
    · exact ih h.2.2 hv

/-- The table under a key of a tree with distinct keys has distinct keys. -/
theorem Distinct.subtable {tree : Tree} (h : tree.Distinct) (key : String) :
    (tree.subtable key).Distinct := by
  unfold Tree.subtable
  split
  · next sub e => exact h.of_get? e
  · trivial

/-- An insertion keeps keys distinct. -/
theorem Distinct.insert {tree : Tree} (h : tree.Distinct) (key : String) {value : Value}
    (hv : value.Distinct) : (tree.insert key value).Distinct := by
  induction tree with
  | nil => simp [Tree.insert, keys, hv, Distinct]
  | leaf k v rest ih =>
    simp only [Tree.insert]
    split
    · next e =>
      subst e
      rw [distinct_cons]
      exact ⟨h.1, hv, h.2⟩
    · next e =>
      refine ⟨?_, ih h.2⟩
      rw [keys_insert]
      split
      · exact h.1
      · simp [h.1, e]
  | table k sub rest _ ih =>
    simp only [Tree.insert]
    split
    · next e =>
      subst e
      rw [distinct_cons]
      exact ⟨h.1, hv, h.2.2⟩
    · next e =>
      refine ⟨?_, h.2.1, ih h.2.2⟩
      rw [keys_insert]
      split
      · exact h.1
      · simp [h.1, e]

/-- A removal takes no key but its own. -/
theorem keys_erase_subset (key : String) (tree : Tree) : (tree.erase key).keys ⊆ tree.keys := by
  induction tree with
  | nil => simp [erase]
  | leaf k v rest ih =>
    simp only [erase]
    split
    · exact List.subset_cons_self k rest.keys
    · exact List.cons_subset_cons k ih
  | table k sub rest _ ih =>
    simp only [erase]
    split
    · exact List.subset_cons_self k rest.keys
    · exact List.cons_subset_cons k ih

/-- A removal keeps keys distinct. -/
theorem Distinct.erase {tree : Tree} (h : tree.Distinct) (key : String) :
    (tree.erase key).Distinct := by
  induction tree with
  | nil => trivial
  | leaf k v rest ih =>
    simp only [Tree.erase]
    split
    · exact h.2
    · exact ⟨fun hk => h.1 (keys_erase_subset key rest hk), ih h.2⟩
  | table k sub rest _ ih =>
    simp only [Tree.erase]
    split
    · exact h.2.2
    · exact ⟨fun hk => h.1 (keys_erase_subset key rest hk), h.2.1, ih h.2.2⟩

/-- An insertion at the end of a path keeps keys distinct. -/
theorem Distinct.insertPath {tree : Tree} (h : tree.Distinct) (path : List String)
    (value : Scalar) : (tree.insertPath path value).Distinct := by
  fun_induction Tree.insertPath path value tree with
  | case1 => exact h
  | case2 => exact h.insert _ trivial
  | case3 key next path value tree ih => exact h.insert key (ih (h.subtable key))

end Tree

end Gamebook
