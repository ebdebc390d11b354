import Gamebook.State.Basic
import Mathlib.Data.List.Infix
import Mathlib.Tactic.Lemma

/-!
# Colliding paths

Two different paths collide if the keys of one are the first keys of the other: a state cannot have
a leaf at both. Inserting a leaf at a path takes the leaves away whose paths collide with it and
keeps all others, so of the leaves of a sheet those survive that no later path collides with. Main
definition: `Collides`. Main statements: `Tree.lookup?_insertPath`, `Sheet.lookup?_rebuild`.
-/

namespace Gamebook

namespace Text

/-- Joining the pieces between the separators gives the text. -/
lemma joinWith_splitOn {c cs} : joinWith [c] (splitOn c cs) = cs := by
  induction cs with
  | nil => rfl
  | cons d ds ih =>
    rw [splitOn]
    cases e : splitOn c ds with
    | nil => exact (splitOn_ne_nil c ds e).elim
    | cons piece pieces =>
      rw [e] at ih
      by_cases hd : d = c
      · simp only [hd, if_true, joinWith, List.nil_append, List.singleton_append, ih]
      · simp only [hd, if_false]
        cases pieces with
        | nil => simpa [joinWith] using ih
        | cons next pieces => simpa [joinWith] using ih

end Text

/-- The keys on a path make up the path. -/
@[simp]
lemma joinPath_splitPath {path} : joinPath (splitPath path) = path := by
  have h : (splitPath path).map String.toList = Text.splitOn '.' path.toList := by
    simp [splitPath, Function.comp_def]
  rw [joinPath, h, Text.joinWith_splitOn, String.ofList_toList]

/-- Paths with the same keys are equal. -/
lemma splitPath_inj {p q} (h : splitPath p = splitPath q) : p = q := by
  rw [← @joinPath_splitPath p, h, joinPath_splitPath]

/-- A path has at least one key. -/
lemma splitPath_ne_nil {path} : splitPath path ≠ [] := by
  simp [splitPath, Text.splitOn_ne_nil]

/-- Whether a state cannot have leaves at both of two different paths. -/
def Collides (p q : String) : Prop :=
  p ≠ q ∧ (splitPath p <+: splitPath q ∨ splitPath q <+: splitPath p)

instance (p q : String) : Decidable (Collides p q) :=
  inferInstanceAs (Decidable (_ ∧ _))

namespace Tree

/-- Below a key is what its table has. -/
lemma lookup?_subtable {key next path} {tree : Tree} :
    (tree.subtable key).lookup? (next :: path) = tree.lookup? (key :: next :: path) := by
  rw [subtable, lookup?]
  cases tree.get? key with
  | none => cases path <;> rfl
  | some value =>
    cases value with
    | scalar leaf => cases path <;> rfl
    | table sub => rfl

/-- An insertion at the end of a path takes the leaves away that collide with it, and no others. -/
lemma lookup?_insertPath {path other value} {tree : Tree} (h : path ≠ []) :
    (tree.insertPath path value).lookup? other =
      if other = path then some value
      else if other <+: path ∨ path <+: other then none
      else tree.lookup? other := by
  fun_induction insertPath path value tree generalizing other with
  | case1 => exact (h rfl).elim
  | case2 key value tree =>
    cases other with
    | nil => simp [lookup?]
    | cons k rest =>
      by_cases e : k = key
      · cases rest with
        | nil => simp [lookup?, get?_insert, e]
        | cons next rest => simp [lookup?, get?_insert, e]
      · cases rest with
        | nil => simp [lookup?, get?_insert, e, List.cons_prefix_cons, Ne.symm e]
        | cons next rest => simp [lookup?, get?_insert, e, List.cons_prefix_cons, Ne.symm e]
  | case3 key next path value tree ih =>
    cases other with
    | nil => simp [lookup?]
    | cons k rest =>
      by_cases e : k = key
      · cases rest with
        | nil => simp [lookup?, get?_insert, e]
        -- only here both paths go on, into the table below the key
        | cons next' rest =>
          subst e
          simp only [lookup?, get?_insert, if_true, ih (List.cons_ne_nil _ _), lookup?_subtable,
            List.cons.injEq, true_and, List.cons_prefix_cons]
      · cases rest with
        | nil => simp [lookup?, get?_insert, e, List.cons_prefix_cons, Ne.symm e]
        | cons next' rest => simp [lookup?, get?_insert, e, List.cons_prefix_cons, Ne.symm e]

end Tree

namespace State

/-- An insertion at a path takes the leaves away that collide with it, and no others. -/
lemma lookup?_insertPath {state : State} {p q value} :
    (state.insertPath (splitPath q) value).lookup? p =
      if p = q then some value else if Collides q p then none else state.lookup? p := by
  rw [lookup?, insertPath, Tree.lookup?_insertPath splitPath_ne_nil]
  by_cases e : p = q
  · simp [e]
  · have hs : splitPath p ≠ splitPath q := fun h => e (splitPath_inj h)
    simp only [hs, e, if_false, Collides, ne_eq, Ne.symm e, not_false_eq_true, true_and, lookup?,
      or_comm]

/-- The state with leaves inserted one after the other. -/
def insertLeaves (state : State) (leaves : List (String × Scalar)) : State :=
  leaves.foldl (fun state (path, leaf) => state.insertPath (splitPath path) leaf) state

/-- A leaf survives the insertion of others exactly if none of them collides with it. -/
lemma lookup?_insertLeaves {state : State} {leaves p} (h : p ∉ Ordered.keys leaves) :
    (state.insertLeaves leaves).lookup? p =
      if ∃ q ∈ Ordered.keys leaves, Collides q p then none else state.lookup? p := by
  induction leaves generalizing state with
  | nil => simp [insertLeaves, Ordered.keys]
  | cons leaf leaves ih =>
    obtain ⟨q, value⟩ := leaf
    simp only [Ordered.keys, List.map_cons, List.mem_cons, not_or] at h
    have ih := @ih (state.insertPath (splitPath q) value) h.2
    rw [lookup?_insertPath, if_neg h.1] at ih
    rw [insertLeaves, List.foldl_cons]
    refine ih.trans ?_
    by_cases hq : Collides q p
    · rw [if_pos hq, ite_self, if_pos ⟨q, by simp [Ordered.keys], hq⟩]
    · rw [if_neg hq]
      exact if_congr (by simp [Ordered.keys, hq]) rfl rfl

end State

namespace Sheet

/-- The state of a sheet has a leaf exactly if no later path of the sheet collides with its path. -/
lemma lookup?_rebuild {sheet : Sheet} {before p value after}
    (h : sheet.entries = before ++ (p, value) :: after) :
    sheet.rebuild.lookup? p =
      if ∃ q ∈ Ordered.keys after, Collides q p then none else some value := by
  have hp : p ∉ Ordered.keys after := by
    have hn := sheet.nodup
    rw [h, Ordered.keys, List.map_append, List.map_cons, List.nodup_append] at hn
    exact (List.nodup_cons.1 hn.2.1).1
  have hr : sheet.rebuild =
      ((State.empty.insertLeaves before).insertPath (splitPath p) value).insertLeaves after := by
    rw [rebuild, h, List.foldl_append, List.foldl_cons]
    rfl
  rw [hr, State.lookup?_insertLeaves hp, State.lookup?_insertPath, if_pos rfl]

end Sheet

end Gamebook
