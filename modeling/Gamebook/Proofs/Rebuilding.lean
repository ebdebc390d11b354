import Gamebook.Proofs.Groups
import Gamebook.Proofs.LastWrite
import Gamebook.Proofs.StateText
import Mathlib.Data.List.Nodup

/-!
# States made of sheets

A sheet tells of a state which leaves it has, and in which order. A state that is made of its own
sheet is the same state but for the tables without leaves. A state that is made of any sheet has
the leaves that no later path collides with, and both ways to read it, along a path and by its
sheet, find just these. Main definitions: `Tree.Everywhere`, `Tree.pruned`, `Sheet.Keeps`. Main
statements: `State.rebuild_flatten`, `Sheet.rebuild_keeps`.
-/

namespace Gamebook

namespace Tree

/-- Whether a condition holds of every entry of a tree, those of its tables included. -/
def Everywhere (p : String → Value → Prop) : Tree → Prop
  | nil => True
  | leaf key value rest => p key (.scalar value) ∧ rest.Everywhere p
  | table key sub rest => p key (.table sub) ∧ sub.Everywhere p ∧ rest.Everywhere p

instance (p : String → Value → Prop) [∀ key value, Decidable (p key value)] (tree : Tree) :
    Decidable (tree.Everywhere p) :=
  go tree
where
  /-- The condition is decided entry by entry. -/
  go : (tree : Tree) → Decidable (tree.Everywhere p)
    | nil => .isTrue trivial
    | leaf _ _ rest =>
      have := go rest
      inferInstanceAs (Decidable (_ ∧ _))
    | table _ sub rest =>
      have := go sub
      have := go rest
      inferInstanceAs (Decidable (_ ∧ _ ∧ _))

/-- Whether no key has a dot. -/
def Dotless (tree : Tree) : Prop :=
  tree.Everywhere fun key _ => '.' ∉ key.toList

instance (tree : Tree) : Decidable tree.Dotless :=
  inferInstanceAs (Decidable (tree.Everywhere _))

/-- Whether no table is empty. -/
def Filled (tree : Tree) : Prop :=
  tree.Everywhere fun _ value => value ≠ .table nil

instance (tree : Tree) : Decidable tree.Filled :=
  inferInstanceAs (Decidable (tree.Everywhere _))

/-- The tree without the tables that have no leaf, however deep. -/
def pruned : Tree → Tree
  | nil => nil
  | leaf key value rest => leaf key value rest.pruned
  | table key sub rest =>
    if sub.leaves.isEmpty then rest.pruned else table key sub.pruned rest.pruned

section Everywhere

variable {p : String → Value → Prop} {tree : Tree} {key : String} {path : List String}
  {value : Scalar}

/-- A condition holds of the table under a key if it holds everywhere. -/
lemma Everywhere.subtable (h : tree.Everywhere p) : (tree.subtable key).Everywhere p := by
  induction tree with
  | nil => trivial
  | leaf k v rest ih =>
    by_cases e : k = key
    · simp only [Tree.subtable, get?, e, if_true]
      trivial
    · simp only [Tree.subtable, get?, e, if_false]
      exact ih h.2
  | table k sub rest _ ih =>
    by_cases e : k = key
    · simp only [Tree.subtable, get?, e, if_true]
      exact h.2.1
    · simp only [Tree.subtable, get?, e, if_false]
      exact ih h.2.2

/-- An insertion keeps a condition that holds of the entry that is inserted. -/
lemma Everywhere.insert {v : Value} (h : tree.Everywhere p) (hv : (cons key v nil).Everywhere p) :
    (tree.insert key v).Everywhere p := by
  have front {rest : Tree} (hrest : rest.Everywhere p) : (cons key v rest).Everywhere p := by
    cases v with
    | scalar leaf => exact ⟨hv.1, hrest⟩
    | table sub => exact ⟨hv.1, hv.2.1, hrest⟩
  induction tree with
  | nil => exact hv
  | leaf k v' rest ih =>
    rw [Tree.insert]
    split
    · exact front h.2
    · exact ⟨h.1, ih h.2⟩
  | table k sub rest _ ih =>
    rw [Tree.insert]
    split
    · exact front h.2.2
    · exact ⟨h.1, h.2.1, ih h.2.2⟩

lemma cons_ne_nil {v : Value} {rest : Tree} : cons key v rest ≠ nil := by
  intro e
  cases v <;> cases e

lemma insert_ne_nil {v : Value} : tree.insert key v ≠ nil := by
  cases tree with
  | nil => exact cons_ne_nil
  | leaf k v' rest =>
    rw [insert]
    split
    · exact cons_ne_nil
    · exact @cons_ne_nil k (.scalar v') _
  | table k sub rest =>
    rw [insert]
    split
    · exact cons_ne_nil
    · exact @cons_ne_nil k (.table sub) _

/-- There is an entry after an insertion at the end of a path. -/
lemma insertPath_ne_nil (h : path ≠ []) : tree.insertPath path value ≠ nil := by
  cases path with
  | nil => exact (h rfl).elim
  | cons key path => cases path <;> exact insert_ne_nil

/-- An insertion at the end of a path keeps a condition that holds of leaves and of tables with
entries under the keys of the path. -/
lemma Everywhere.insertPath (h : tree.Everywhere p)
    (hp : ∀ key ∈ path, ∀ v, v ≠ .table nil → p key v) :
    (tree.insertPath path value).Everywhere p := by
  fun_induction Tree.insertPath path value tree with
  | case1 => exact h
  | case2 key value tree =>
    exact h.insert ⟨hp key List.mem_cons_self _ fun e => (by cases e), trivial⟩
  | case3 key next path value tree ih =>
    have hsub := ih h.subtable fun k hk => hp k (List.mem_cons_of_mem _ hk)
    refine h.insert ⟨hp key List.mem_cons_self _ fun e => ?_, hsub, trivial⟩
    exact insertPath_ne_nil (List.cons_ne_nil _ _) (Value.table.inj e)

end Everywhere

section Leaves

variable {tree : Tree} {key : String} {path : List String} {value : Scalar}

/-- The path of a leaf starts with a key of the tree. -/
lemma exists_key_of_mem_leaves (h : (path, value) ∈ tree.leaves) :
    ∃ key rest, path = key :: rest ∧ key ∈ tree.keys := by
  induction tree with
  | nil => cases h
  | leaf k v rest ih =>
    obtain h | h := List.mem_cons.1 h
    · cases h
      exact ⟨k, [], rfl, List.mem_cons_self⟩
    · obtain ⟨key, more, e, hk⟩ := ih h
      exact ⟨key, more, e, List.mem_cons_of_mem _ hk⟩
  | table k sub rest _ ih =>
    obtain h | h := List.mem_append.1 h
    · obtain ⟨⟨below, v⟩, -, e⟩ := List.mem_map.1 h
      cases e
      exact ⟨k, below, rfl, List.mem_cons_self⟩
    · obtain ⟨key, more, e, hk⟩ := ih h
      exact ⟨key, more, e, List.mem_cons_of_mem _ hk⟩

lemma lookup?_leaf {k v} {rest : Tree} :
    (leaf k v rest).lookup? (key :: path) =
      if k = key then if path = [] then some v else none else rest.lookup? (key :: path) := by
  by_cases e : k = key <;> cases path <;> simp [lookup?, get?, e]

lemma lookup?_table {k} {sub rest : Tree} :
    (table k sub rest).lookup? (key :: path) =
      if k = key then sub.lookup? path else rest.lookup? (key :: path) := by
  by_cases e : k = key <;> cases path <;> simp [lookup?, get?, e]

/-- A path that starts with a key does not lead to a leaf of entries without the key. -/
lemma not_mem_leaves (h : key ∉ tree.keys) : (key :: path, value) ∉ tree.leaves := by
  intro hmem
  obtain ⟨k, rest, e, hk⟩ := exists_key_of_mem_leaves hmem
  cases e
  exact h hk

lemma ne_nil_of_mem_leaves {e} (h : e ∈ tree.leaves) : e.1 ≠ [] := by
  obtain ⟨k, rest, hpath, -⟩ := exists_key_of_mem_leaves h
  exact hpath ▸ List.cons_ne_nil _ _

/-- Looking up a path finds the leaf that the tree lists with it. -/
lemma lookup?_eq_some_iff (hd : tree.Distinct) :
    tree.lookup? path = some value ↔ (path, value) ∈ tree.leaves := by
  -- keys are distinct, so the first field with the key is the only one
  induction tree generalizing path with
  | nil =>
    cases path with
    | nil => simp [lookup?, leaves]
    | cons key path => cases path <;> simp [lookup?, get?, leaves]
  | leaf k v rest ih =>
    cases path with
    | nil => exact iff_of_false (by simp [lookup?]) fun h => ne_nil_of_mem_leaves h rfl
    | cons key path =>
      rw [lookup?_leaf, leaves, List.mem_cons]
      by_cases e : k = key
      · subst e
        by_cases hp : path = [] <;> simp [hp, not_mem_leaves hd.1, eq_comm]
      · rw [if_neg e, ih hd.2]
        simp [Ne.symm e]
  | table k sub rest ihsub ih =>
    cases path with
    | nil => exact iff_of_false (by simp [lookup?]) fun h => ne_nil_of_mem_leaves h rfl
    | cons key path =>
      rw [lookup?_table, leaves, List.mem_append]
      by_cases e : k = key
      · subst e
        rw [if_pos rfl, ihsub hd.2.1]
        simp [not_mem_leaves hd.1]
      · rw [if_neg e, ih hd.2.2]
        simp [e]

/-- The paths of the leaves of a tree with distinct keys are distinct. -/
lemma nodup_leaves (hd : tree.Distinct) : (tree.leaves.map (·.1)).Nodup := by
  have behind {k : String} {path} {rest : Tree} (hk : k ∉ rest.keys) :
      k :: path ∉ rest.leaves.map (·.1) := by
    intro h
    obtain ⟨e, he, hpath⟩ := List.mem_map.1 h
    rw [← Prod.eta e, hpath] at he
    exact not_mem_leaves hk he
  induction tree with
  | nil => exact List.nodup_nil
  | leaf k v rest ih => exact List.nodup_cons.2 ⟨behind hd.1, ih hd.2⟩
  | table k sub rest ihsub ih =>
    rw [leaves, List.map_append, List.map_map, List.nodup_append]
    refine ⟨?_, ih hd.2.2, ?_⟩
    · have below := List.Nodup.map (@List.cons_injective _ k) (ihsub hd.2.1)
      rwa [List.map_map] at below
    · intro path hpath other hother
      obtain ⟨e, -, rfl⟩ := List.mem_map.1 hpath
      rintro rfl
      exact behind hd.1 hother

/-- The keys on the path of a leaf have no dots if no key has. -/
lemma Dotless.not_mem (h : tree.Dotless) (hmem : (path, value) ∈ tree.leaves) :
    ∀ key ∈ path, '.' ∉ key.toList := by
  induction tree generalizing path with
  | nil => cases hmem
  | leaf k v rest ih =>
    obtain e | hmem := List.mem_cons.1 hmem
    · cases e
      exact List.forall_mem_singleton.2 h.1
    · exact ih h.2 hmem
  | table k sub rest ihsub ih =>
    obtain hmem | hmem := List.mem_append.1 hmem
    · obtain ⟨⟨below, v⟩, hsub, e⟩ := List.mem_map.1 hmem
      cases e
      exact List.forall_mem_cons.2 ⟨h.1, ihsub h.2.1 hsub⟩
    · exact ih h.2.2 hmem

end Leaves

end Tree

namespace Text

variable {c : Char}

/-- The pieces of a text do not have the separator. -/
lemma not_mem_of_mem_splitOn {cs piece} (h : piece ∈ splitOn c cs) : c ∉ piece := by
  induction cs generalizing piece with
  | nil =>
    rw [splitOn, List.mem_singleton] at h
    exact h ▸ List.not_mem_nil
  | cons d ds ih =>
    obtain ⟨first, pieces, e⟩ := List.exists_cons_of_ne_nil (splitOn_ne_nil c ds)
    rw [e] at ih
    have hfirst := ih List.mem_cons_self
    simp only [splitOn, e] at h
    split at h
    · obtain rfl | h := List.mem_cons.1 h
      · exact List.not_mem_nil
      · exact ih h
    · next hd =>
      obtain rfl | h := List.mem_cons.1 h
      · simp [hfirst, Ne.symm hd]
      · exact ih (List.mem_cons_of_mem _ h)

/-- Splitting gives the pieces back that were joined. -/
lemma splitOn_joinWith {pieces : List (List Char)} (hne : pieces ≠ [])
    (h : ∀ piece ∈ pieces, c ∉ piece) : splitOn c (joinWith [c] pieces) = pieces := by
  induction pieces with
  | nil => exact (hne rfl).elim
  | cons piece pieces ih =>
    rw [List.forall_mem_cons] at h
    cases pieces with
    | nil => exact splitOn_of_not_mem h.1
    | cons next pieces =>
      rw [joinWith, List.append_assoc, List.singleton_append, splitOn_append_cons h.1,
        ih (List.cons_ne_nil _ _) h.2]
      exact List.cons_ne_nil _ _

end Text

/-- A path without dots in its keys is split into its keys. -/
lemma splitPath_joinPath {path : List String} (hne : path ≠ [])
    (h : ∀ key ∈ path, '.' ∉ key.toList) : splitPath (joinPath path) = path := by
  rw [splitPath, joinPath, String.toList_ofList, Text.splitOn_joinWith]
  · simp [Function.comp_def]
  · simpa using hne
  · simpa using h

/-- The keys on a path have no dots. -/
lemma not_mem_of_mem_splitPath {path key} (h : key ∈ splitPath path) : '.' ∉ key.toList := by
  obtain ⟨piece, hpiece, rfl⟩ := List.mem_map.1 h
  rw [String.toList_ofList]
  exact Text.not_mem_of_mem_splitOn hpiece

namespace Ordered

variable {α : Type} {entries : List (String × α)} {key : String} {a : α}

/-- The value of a new key comes last. -/
lemma put_of_not_mem (h : key ∉ keys entries) : put key a entries = entries ++ [(key, a)] := by
  induction entries with
  | nil => rfl
  | cons entry entries ih =>
    rw [keys, List.map_cons, List.mem_cons, not_or] at h
    rw [put, if_neg (Ne.symm h.1), ih h.2, List.cons_append]

/-- Among distinct keys the value of a key is the one listed with it. -/
lemma get?_eq_some_iff (h : (keys entries).Nodup) :
    get? key entries = some a ↔ (key, a) ∈ entries := by
  induction entries with
  | nil => simp [get?]
  | cons entry entries ih =>
    obtain ⟨k, b⟩ := entry
    rw [keys, List.map_cons, List.nodup_cons] at h
    rw [get?, List.mem_cons]
    by_cases e : k = key
    · subst e
      have absent : (k, a) ∉ entries := fun hmem => h.1 (List.mem_map.2 ⟨_, hmem, rfl⟩)
      simp [absent, eq_comm]
    · rw [if_neg e, ih h.2]
      simp [Ne.symm e]

end Ordered

namespace Sheet

/-- Leaves at new and distinct paths come after those that are there. -/
lemma entries_insertAll {sheet : Sheet} {leaves}
    (h : (Ordered.keys (sheet.entries ++ leaves)).Nodup) :
    (sheet.insertAll leaves).entries = sheet.entries ++ leaves := by
  induction leaves generalizing sheet with
  | nil => exact (List.append_nil _).symm
  | cons leaf leaves ih =>
    have hnew : leaf.1 ∉ Ordered.keys sheet.entries := by
      rw [Ordered.keys, List.map_append, List.nodup_append] at h
      exact fun hmem => h.2.2 _ hmem _ List.mem_cons_self rfl
    have hinsert : (sheet.insert leaf.1 leaf.2).entries = sheet.entries ++ [leaf] :=
      Ordered.put_of_not_mem hnew
    rw [List.append_cons, ← hinsert] at h ⊢
    exact ih h

/-- A sheet of leaves at distinct paths lists just these. -/
lemma entries_ofList {leaves} (h : (Ordered.keys leaves).Nodup) :
    (ofList leaves).entries = leaves :=
  entries_insertAll h

end Sheet

namespace Tree

variable {tree : Tree}

/-- The sheet of a tree lists its leaves by their joined paths. -/
lemma entries_flatten (hd : tree.Distinct) (hdot : tree.Dotless) :
    tree.flatten.entries = tree.leaves.map fun (path, value) => (joinPath path, value) := by
  have split : ∀ path ∈ tree.leaves.map (·.1), splitPath (joinPath path) = path := by
    intro path hpath
    obtain ⟨⟨path, value⟩, hmem, rfl⟩ := List.mem_map.1 hpath
    exact splitPath_joinPath (ne_nil_of_mem_leaves hmem) (hdot.not_mem hmem)
  refine Sheet.entries_ofList ?_
  have joined : ((tree.leaves.map (·.1)).map joinPath).Nodup :=
    List.Nodup.map_on (fun p hp q hq e => by rw [← split p hp, e, split q hq]) (nodup_leaves hd)
  rw [List.map_map] at joined
  rw [Ordered.keys, List.map_map]
  exact joined

/-- The sheet of a tree has a leaf at a path exactly if the tree has it there. -/
lemma get?_flatten (hd : tree.Distinct) (hdot : tree.Dotless) {path : String} :
    tree.flatten.get? path = tree.lookup? (splitPath path) := by
  ext value
  rw [Sheet.get?, Ordered.get?_eq_some_iff tree.flatten.nodup, lookup?_eq_some_iff hd,
    entries_flatten hd hdot]
  constructor
  · intro h
    obtain ⟨⟨keys, leaf⟩, hmem, e⟩ := List.mem_map.1 h
    cases e
    rw [splitPath_joinPath (ne_nil_of_mem_leaves hmem) (hdot.not_mem hmem)]
    exact hmem
  · intro h
    exact List.mem_map.2 ⟨_, h, congrArg (·, value) joinPath_splitPath⟩

/-- The tree with leaves inserted at the ends of their paths, one after the other. -/
def insertPaths (tree : Tree) (leaves : List (List String × Scalar)) : Tree :=
  leaves.foldl (fun tree e => tree.insertPath e.1 e.2) tree

variable {key : String}

/-- Of two values that are inserted under a key the later one counts. -/
lemma insert_insert {v w : Value} : (tree.insert key v).insert key w = tree.insert key w := by
  have front {rest : Tree} : (cons key v rest).insert key w = cons key w rest := by
    cases v <;> simp [cons, insert]
  induction tree with
  | nil => exact front
  | leaf k v' rest ih =>
    rw [insert]
    split
    · next e => rw [front, insert, if_pos e]
    · next e => rw [insert, if_neg e, ih, insert, if_neg e]
  | table k sub rest _ ih =>
    rw [insert]
    split
    · next e => rw [front, insert, if_pos e]
    · next e => rw [insert, if_neg e, ih, insert, if_neg e]

/-- Leaves with one first key are inserted into the table under it. -/
lemma insertPaths_map {leaves : List (List String × Scalar)} (hne : leaves ≠ [])
    (h : ∀ e ∈ leaves, e.1 ≠ []) :
    tree.insertPaths (leaves.map fun (path, value) => (key :: path, value)) =
      tree.insert key (.table ((tree.subtable key).insertPaths leaves)) := by
  induction leaves generalizing tree with
  | nil => exact (hne rfl).elim
  | cons e leaves ih =>
    obtain ⟨path, value⟩ := e
    rw [List.forall_mem_cons] at h
    have first : tree.insertPath (key :: path) value =
        tree.insert key (.table ((tree.subtable key).insertPath path value)) := by
      cases path with
      | nil => exact (h.1 rfl).elim
      | cons next path => rw [insertPath]
    rw [List.map_cons, insertPaths, List.foldl_cons, first]
    cases leaves with
    | nil => rfl
    | cons next leaves =>
      refine (ih (List.cons_ne_nil _ _) h.2).trans ?_
      rw [insert_insert, subtable, get?_insert, if_pos rfl]
      rfl

lemma get?_of_not_mem (h : key ∉ tree.keys) : tree.get? key = none := by
  induction tree with
  | nil => rfl
  | leaf k v rest ih =>
    rw [keys, List.mem_cons, not_or] at h
    rw [get?, if_neg (Ne.symm h.1), ih h.2]
  | table k sub rest _ ih =>
    rw [keys, List.mem_cons, not_or] at h
    rw [get?, if_neg (Ne.symm h.1), ih h.2]

/-- Inserting the leaves of a tree with new keys puts the tree behind, but for the tables without
leaves. -/
lemma insertPaths_leaves {other : Tree} (hd : tree.Distinct)
    (h : ∀ key ∈ tree.keys, key ∉ other.keys) :
    other.insertPaths tree.leaves = other.append tree.pruned := by
  induction tree generalizing other with
  | nil => exact append_nil.symm
  | leaf k v rest ih =>
    obtain ⟨hk, hrest⟩ := List.forall_mem_cons.1 h
    exact (ih hd.2 (new_insert hk hrest hd.1)).trans (append_insert hk)
  | table k sub rest ihsub ih =>
    obtain ⟨hk, hrest⟩ := List.forall_mem_cons.1 h
    rw [leaves, insertPaths, List.foldl_append, ← insertPaths, ← insertPaths, pruned]
    cases e : sub.leaves with
    | nil => exact ih hd.2.2 hrest
    | cons first more =>
      have hne : ∀ e ∈ first :: more, e.1 ≠ [] :=
        fun _ hmem => ne_nil_of_mem_leaves (e ▸ hmem)
      have below : (other.subtable k).insertPaths (first :: more) = sub.pruned := by
        rw [subtable, get?_of_not_mem hk, ← e]
        exact @ihsub nil hd.2.1 fun _ _ => List.not_mem_nil
      rw [insertPaths_map (List.cons_ne_nil _ _) hne, below, ih hd.2.2 (new_insert hk hrest hd.1)]
      exact append_insert hk

/-- No key is new to what is left of a tree without the tables that have no leaf. -/
lemma keys_pruned_sublist : tree.pruned.keys.Sublist tree.keys := by
  induction tree with
  | nil => exact .slnil
  | leaf k v rest ih => exact ih.cons_cons k
  | table k sub rest _ ih =>
    rw [pruned]
    split
    · exact ih.cons k
    · exact ih.cons_cons k

/-- Leaving tables out keeps keys distinct. -/
lemma Distinct.pruned (h : tree.Distinct) : tree.pruned.Distinct := by
  induction tree with
  | nil => trivial
  | leaf k v rest ih => exact ⟨fun hk => h.1 (keys_pruned_sublist.subset hk), ih h.2⟩
  | table k sub rest ihsub ih =>
    rw [Tree.pruned]
    split
    · exact ih h.2.2
    · exact ⟨fun hk => h.1 (keys_pruned_sublist.subset hk), ihsub h.2.1, ih h.2.2⟩

/-- A tree with entries but without empty tables has a leaf. -/
lemma Filled.leaves_ne_nil (h : tree.Filled) (hne : tree ≠ nil) : tree.leaves ≠ [] := by
  induction tree with
  | nil => exact (hne rfl).elim
  | leaf k v rest _ => exact List.cons_ne_nil _ _
  | table k sub rest ihsub _ =>
    have hsub := ihsub h.2.1 fun e => h.1 (congrArg Value.table e)
    rw [leaves, Ne, List.append_eq_nil_iff, List.map_eq_nil_iff]
    exact fun e => hsub e.1

/-- Nothing is left out of a tree without empty tables. -/
lemma Filled.pruned_eq (h : tree.Filled) : tree.pruned = tree := by
  induction tree with
  | nil => rfl
  | leaf k v rest ih => rw [pruned, ih h.2]
  | table k sub rest ihsub ih =>
    have hsub := Filled.leaves_ne_nil h.2.1 fun e => h.1 (congrArg Value.table e)
    rw [pruned, if_neg (by rwa [List.isEmpty_iff]), ihsub h.2.1, ih h.2.2]

end Tree

namespace State

/-- The state without the tables that have no leaf, however deep. -/
def pruned (state : State) : State where
  tree := state.tree.pruned
  distinct := state.distinct.pruned

/-- The state that is made of the leaves of a sheet has the tree of these. -/
lemma tree_insertLeaves {state : State} {leaves : List (String × Scalar)} :
    (state.insertLeaves leaves).tree =
      state.tree.insertPaths (leaves.map fun e => (splitPath e.1, e.2)) := by
  induction leaves generalizing state with
  | nil => rfl
  | cons e leaves ih => exact ih

/-- Insertions keep a condition that holds of leaves and of tables with entries under keys without
dots. -/
lemma everywhere_insertLeaves {p : String → Tree.Value → Prop} {state : State}
    {leaves : List (String × Scalar)} (h : state.tree.Everywhere p)
    (hp : ∀ key v, '.' ∉ key.toList → v ≠ .table .nil → p key v) :
    (state.insertLeaves leaves).tree.Everywhere p := by
  induction leaves generalizing state with
  | nil => exact h
  | cons e leaves ih =>
    exact ih (h.insertPath fun key hkey v hv => hp key v (not_mem_of_mem_splitPath hkey) hv)

/-- The paths of a sheet are those of the leaves of the state, if no key has a dot. -/
lemma map_splitPath_flatten {state : State} (h : state.tree.Dotless) :
    state.flatten.entries.map (fun e => (splitPath e.1, e.2)) = state.tree.leaves := by
  rw [flatten, Tree.entries_flatten state.distinct h, List.map_map]
  refine (List.map_congr_left fun e he => ?_).trans (List.map_id _)
  exact congrArg (·, e.2) (splitPath_joinPath (Tree.ne_nil_of_mem_leaves he) (h.not_mem he))

/-- The tables without leaves are left out of a state that its sheet makes up. -/
lemma rebuild_flatten_eq {state : State} (h : state.tree.Dotless) :
    state.flatten.rebuild = state.pruned := by
  apply State.ext
  calc state.flatten.rebuild.tree
    _ = Tree.nil.insertPaths state.tree.leaves := by
      rw [← map_splitPath_flatten h]
      exact tree_insertLeaves
    _ = state.tree.pruned := Tree.insertPaths_leaves state.distinct fun _ _ => List.not_mem_nil

/--
A state whose keys have no dots is the state that its sheet makes up, but for the tables that have
no leaf: the keys of every table are in their order. So nothing changes if no table is empty.
-/
theorem rebuild_flatten {state : State} (h : state.tree.Dotless) :
    state.flatten.rebuild = state.pruned ∧
      (state.tree.Filled → state.flatten.rebuild = state) := by
  have rebuilt := rebuild_flatten_eq h
  exact ⟨rebuilt, fun hf => rebuilt.trans (State.ext hf.pruned_eq)⟩

/-- A state with tables that have no leaf, and with keys that have no character. -/
def emptyPockets : State where
  tree :=
    .leaf "" (.number 1) <|
    .table "bag"
      (.table "pocket" (.table "" .nil .nil) (.table "" (.leaf "rope" (.text "old") .nil) .nil)) <|
    .table "box" .nil <|
    .leaf "hp" (.number 10) .nil
  distinct := by simp [Tree.Distinct, Tree.keys]

/-- The tables without leaves get lost, the empty keys do not. -/
theorem rebuild_flatten_emptyPockets :
    let kept : Tree :=
      .leaf "" (.number 1) <|
      .table "bag" (.table "" (.leaf "rope" (.text "old") .nil) .nil) <|
      .leaf "hp" (.number 10) .nil
    emptyPockets.tree.Dotless ∧ emptyPockets.flatten.rebuild.tree = kept ∧
      emptyPockets.pruned.tree.Dotless ∧ emptyPockets.pruned.tree.Filled ∧
      emptyPockets.pruned.flatten.rebuild = emptyPockets.pruned := by
  have hdot : emptyPockets.tree.Dotless := by decide
  have hkept : emptyPockets.pruned.tree.Dotless := by decide
  have hfilled : emptyPockets.pruned.tree.Filled := by decide
  exact ⟨hdot, congrArg State.tree (rebuild_flatten hdot).1, hkept, hfilled,
    (rebuild_flatten hkept).2 hfilled⟩

end State

namespace Sheet

/-- Whether a sheet has a leaf at a path that no later path collides with. -/
def Keeps (sheet : Sheet) (path : String) (leaf : Scalar) : Prop :=
  ∃ before after, sheet.entries = before ++ (path, leaf) :: after ∧
    ∀ q ∈ Ordered.keys after, ¬ Collides q path

variable {sheet : Sheet} {path : String} {leaf : Scalar}

/-- The state of a sheet has the leaves that no later path collides with. -/
lemma lookup?_rebuild_eq_some_iff :
    sheet.rebuild.lookup? path = some leaf ↔ sheet.Keeps path leaf := by
  constructor
  · intro h
    cases e : sheet.get? path with
    | none =>
      have found := @State.lookup?_insertLeaves .empty _ _ (Ordered.get?_eq_none_iff.1 e)
      have h := found.symm.trans h
      split at h
      · cases h
      · cases (Tree.lookup?_eq_some_iff State.empty.distinct).1 h
    | some value =>
      obtain ⟨before, after, hsplit, -⟩ := Ordered.split_of_get? e
      rw [lookup?_rebuild hsplit] at h
      split at h
      · cases h
      · next hlater =>
        obtain rfl := Option.some.inj h
        exact ⟨before, after, hsplit, fun q hq hc => hlater ⟨q, hq, hc⟩⟩
  · rintro ⟨before, after, hsplit, hlater⟩
    rw [lookup?_rebuild hsplit, if_neg]
    rintro ⟨q, hq, hc⟩
    exact hlater q hq hc

/--
The state that is made of a sheet has no empty table and no key with a dot. Looking up a path in it,
and looking it up in its own sheet, both find the leaf of the first sheet at the path if no later
path collides with it, and nothing otherwise.
-/
theorem rebuild_keeps (sheet : Sheet) :
    sheet.rebuild.tree.Filled ∧ sheet.rebuild.tree.Dotless ∧
      ∀ path leaf,
        (sheet.rebuild.lookup? path = some leaf ↔ sheet.Keeps path leaf) ∧
        (sheet.rebuild.flatten.get? path = some leaf ↔ sheet.Keeps path leaf) ∧
        (sheet.rebuild.lookup? path = none ↔ ∀ value, ¬ sheet.Keeps path value) ∧
        (sheet.rebuild.flatten.get? path = none ↔ ∀ value, ¬ sheet.Keeps path value) := by
  have dotless : sheet.rebuild.tree.Dotless :=
    State.everywhere_insertLeaves trivial fun _ _ h _ => h
  have read : ∀ path, sheet.rebuild.flatten.get? path = sheet.rebuild.lookup? path :=
    fun path => Tree.get?_flatten sheet.rebuild.distinct dotless
  refine ⟨State.everywhere_insertLeaves trivial fun _ _ _ h => h, dotless, fun path leaf => ?_⟩
  have absent : sheet.rebuild.lookup? path = none ↔ ∀ value, ¬ sheet.Keeps path value := by
    rw [Option.eq_none_iff_forall_ne_some]
    exact forall_congr' fun value => not_congr lookup?_rebuild_eq_some_iff
  rw [read]
  exact ⟨lookup?_rebuild_eq_some_iff, lookup?_rebuild_eq_some_iff, absent, absent⟩

end Sheet

end Gamebook
