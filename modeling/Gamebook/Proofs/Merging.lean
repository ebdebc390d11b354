import Gamebook.Proofs.Rebuilding

/-!
# Merged states

States are merged leaf by leaf: of the leaves of the lower state those are kept whose paths neither
are paths of the upper state nor collide with one, and all leaves of the upper state are. Shared
paths keep the places that they have in the lower sheet, where nothing collides with them, and new
ones come behind all that they collide with. Main definition: `State.Crosses`. Main statements:
`Sheet.lookup?_rebuild_iff`, `State.lookup?_merge`.
-/

/-- Up to an element of the first list nothing of the second one comes. -/
lemma List.mem_of_mem_takeWhile_ne_append {α : Type} [DecidableEq α] {xs ys : List α} {a b : α}
    (ha : a ∈ xs) (hb : b ∈ (xs ++ ys).takeWhile (· ≠ a)) : b ∈ xs := by
  obtain ⟨front, back, rfl, hfront⟩ := eq_append_cons_of_mem ha
  rw [append_assoc, takeWhile_ne_append hfront, cons_append,
    takeWhile_cons_of_neg (by simp), append_nil] at hb
  exact mem_append_left _ hb

namespace Gamebook

/-- There is no leaf behind a leaf. -/
lemma Tree.lookup?_append {tree : Tree} {path more : List String} {value : Scalar}
    (h : tree.lookup? path = some value) (hne : more ≠ []) : tree.lookup? (path ++ more) = none := by
  obtain ⟨first, more, rfl⟩ := List.exists_cons_of_ne_nil hne
  induction path generalizing tree with
  | nil => cases h
  | cons key path ih =>
    cases path with
    | nil =>
      rw [lookup?] at h
      split at h
      · next found =>
        rw [List.cons_append, List.nil_append, lookup?, found]
      · cases h
    | cons next path =>
      rw [lookup?] at h
      split at h
      · next sub found =>
        rw [List.cons_append, List.cons_append, lookup?, found]
        exact ih h
      · cases h

namespace State

variable {state : State} {p q : String}

/-- The leaves of a state do not collide. -/
lemma not_collides {v w : Scalar} (hp : state.lookup? p = some v) (hq : state.lookup? q = some w) :
    ¬ Collides p q := by
  have behind {p q : String} {v w : Scalar} (hp : state.lookup? p = some v)
      (hq : state.lookup? q = some w) (hne : p ≠ q) : ¬ splitPath p <+: splitPath q := by
    rintro ⟨more, e⟩
    have hmore : more ≠ [] := by
      rintro rfl
      rw [List.append_nil] at e
      exact hne (splitPath_inj e)
    have absent := Tree.lookup?_append hp hmore
    rw [e] at absent
    exact nomatch absent.symm.trans hq
  rintro ⟨hne, h | h⟩
  · exact behind hp hq hne h
  · exact behind hq hp hne.symm h

variable (h : state.tree.Dotless)
include h

lemma get?_flatten : state.flatten.get? p = state.lookup? p :=
  Tree.get?_flatten state.distinct h

/-- The paths on the sheet of a state are the paths of its leaves. -/
lemma mem_keys_flatten_iff : p ∈ state.flatten.keys ↔ (state.lookup? p).isSome := by
  rw [← get?_flatten h]
  exact Ordered.get?_isSome_iff.symm

lemma not_collides_flatten (hp : p ∈ state.flatten.keys) (hq : q ∈ state.flatten.keys) :
    ¬ Collides p q := by
  obtain ⟨v, hv⟩ := Option.isSome_iff_exists.1 ((mem_keys_flatten_iff h).1 hp)
  obtain ⟨w, hw⟩ := Option.isSome_iff_exists.1 ((mem_keys_flatten_iff h).1 hq)
  exact not_collides hv hw

end State

namespace Sheet

variable {sheet lower upper : Sheet} {path : String} {leaf : Scalar}

/-- The leaf at a path of an overlaid sheet is the upper one if there is one. -/
lemma get?_overlay : (lower.overlay upper).get? path = (upper.get? path).or (lower.get? path) := by
  cases h : upper.get? path with
  | none => exact get?_insertAll (Ordered.get?_eq_none_iff.1 h)
  | some value =>
    obtain ⟨before, after, hsplit, -⟩ := Ordered.split_of_get? h
    have hn := upper.nodup
    rw [hsplit, Ordered.keys, List.map_append, List.nodup_append, List.map_cons,
      List.nodup_cons] at hn
    rw [overlay, hsplit]
    exact get?_insertAll_last hn.2.1.1

/-- The state of a sheet has a leaf if all paths that collide with its path come before it. -/
lemma lookup?_rebuild_iff :
    sheet.rebuild.lookup? path = some leaf ↔
      sheet.get? path = some leaf ∧
        ∀ q ∈ sheet.keys, Collides q path → q ∈ sheet.keys.takeWhile (· ≠ path) := by
  rw [lookup?_rebuild_eq_some_iff]
  constructor
  · rintro ⟨before, after, hsplit, hlater⟩
    refine ⟨(Ordered.get?_eq_some_iff sheet.nodup).2 ?_, fun q hq hc => ?_⟩
    · rw [hsplit]
      exact List.mem_append_right _ List.mem_cons_self
    · by_contra hlate
      exact hlater q ((mem_keys_behind hsplit).2 ⟨hq, hc.1, hlate⟩) hc
  · rintro ⟨hget, hearlier⟩
    obtain ⟨before, after, hsplit, -⟩ := Ordered.split_of_get? hget
    refine ⟨before, after, hsplit, fun q hq hc => ?_⟩
    obtain ⟨hmem, -, hlate⟩ := (mem_keys_behind hsplit).1 hq
    exact hlate (hearlier q hmem hc)

end Sheet

namespace State

/-- Whether a leaf of a state is at a path that collides with a path. -/
def Crosses (state : State) (path : String) : Prop :=
  ∃ q ∈ state.flatten.keys, Collides q path

instance (state : State) (path : String) : Decidable (state.Crosses path) :=
  inferInstanceAs (Decidable (∃ q ∈ state.flatten.keys, Collides q path))

section Leaves

variable {a b : State} {path : String} {leaf : Scalar} (ha : a.tree.Dotless) (hb : b.tree.Dotless)
include ha hb

lemma get?_overlay_flatten :
    (a.flatten.overlay b.flatten).get? path = (b.lookup? path).or (a.lookup? path) := by
  rw [Sheet.get?_overlay, get?_flatten ha, get?_flatten hb]

/-- A leaf of the upper state is a leaf of the merged state. -/
lemma lookup?_merge_upper (h : b.lookup? path = some leaf) :
    (a.merge b).lookup? path = some leaf := by
  have hpath : path ∈ b.flatten.keys := (mem_keys_flatten_iff hb).2 (Option.isSome_of_mem h)
  refine Sheet.lookup?_rebuild_iff.2 ⟨?_, fun q hq hc => ?_⟩
  · rw [get?_overlay_flatten ha hb, h]
    rfl
  -- a path that collides is one of the lower state, which then does not have the leaf itself
  · have lower : q ∈ a.flatten.keys := by
      rcases List.mem_append.1 (Sheet.mem_keys_insertAll.1 hq) with hq | hq
      · exact hq
      · exact (not_collides_flatten hb hq hpath hc).elim
    have new : path ∉ a.flatten.keys := fun hp => not_collides_flatten ha lower hp hc
    apply Sheet.mem_earlier_insertAll.2
    rw [List.takeWhile_ne_append new]
    exact List.mem_append_left _ lower

/-- No leaf of the lower state is kept where a leaf of the upper one collides with it. -/
lemma lookup?_merge_crossed (h : b.lookup? path = none) (crossed : b.Crosses path) :
    (a.merge b).lookup? path = none := by
  refine Option.eq_none_iff_forall_ne_some.2 fun leaf found => ?_
  obtain ⟨q, hq, hc⟩ := crossed
  obtain ⟨hget, hearlier⟩ := Sheet.lookup?_rebuild_iff.1 found
  rw [get?_overlay_flatten ha hb, h, Option.none_or] at hget
  have hpath : path ∈ a.flatten.keys := (mem_keys_flatten_iff ha).2 (Option.isSome_of_mem hget)
  have earlier := hearlier q (Sheet.mem_keys_insertAll.2 (List.mem_append_right _ hq)) hc
  -- all that comes before the leaf is of the lower state
  have lower := List.mem_of_mem_takeWhile_ne_append hpath (Sheet.mem_earlier_insertAll.1 earlier)
  exact not_collides_flatten ha lower hpath hc

/-- All other leaves of the lower state are kept. -/
lemma lookup?_merge_clear (h : b.lookup? path = none) (clear : ¬ b.Crosses path) :
    (a.merge b).lookup? path = a.lookup? path := by
  ext leaf
  refine Sheet.lookup?_rebuild_iff.trans ?_
  rw [get?_overlay_flatten ha hb, h, Option.none_or]
  refine and_iff_left_of_imp fun hleaf q hq hc => ?_
  have hpath : path ∈ a.flatten.keys := (mem_keys_flatten_iff ha).2 (Option.isSome_of_mem hleaf)
  rcases List.mem_append.1 (Sheet.mem_keys_insertAll.1 hq) with hq | hq
  · exact (not_collides_flatten ha hq hpath hc).elim
  · exact (clear ⟨q, hq, hc⟩).elim

end Leaves

section Empty

variable {state : State}

lemma merge_empty (h : state.tree.Dotless) : state.merge empty = state.pruned :=
  rebuild_flatten_eq h

/-- Nothing is below the leaves of the upper state where the lower one is empty. -/
lemma empty_merge (h : state.tree.Dotless) : empty.merge state = state.pruned := by
  have overlaid : empty.flatten.overlay state.flatten = state.flatten :=
    Sheet.ext (Sheet.entries_ofList state.flatten.nodup)
  rw [merge, overlaid, rebuild_flatten_eq h]

end Empty

/--
The merged state of two states whose keys have no dots has at a path the leaf of the upper state if
there is one, else the leaf of the lower state unless a leaf of the upper one is at a path that
collides with the path. Merged with the empty state, on either side, a state only loses the tables
that have no leaf.
-/
theorem lookup?_merge {a b : State} (ha : a.tree.Dotless) (hb : b.tree.Dotless) :
    (∀ path, (a.merge b).lookup? path =
      (b.lookup? path).or (if b.Crosses path then none else a.lookup? path)) ∧
      a.merge empty = a.pruned ∧ empty.merge b = b.pruned := by
  refine ⟨fun path => ?_, merge_empty ha, empty_merge hb⟩
  cases h : b.lookup? path with
  | some leaf => exact lookup?_merge_upper ha hb h
  | none =>
    rw [Option.none_or]
    split
    · next crossed => exact lookup?_merge_crossed ha hb h crossed
    · next clear => exact lookup?_merge_clear ha hb h clear

/-- What a traveller carries. -/
def pack : State where
  tree :=
    .leaf "hp" (.number 10) <|
    .table "bag" (.leaf "rope" (.text "old") (.leaf "egg" (.number 3) .nil)) <|
    .table "belt" .nil .nil
  distinct := by simp [Tree.Distinct, Tree.keys]

/-- What a traveller finds. -/
def chest : State where
  tree :=
    .table "hp" (.leaf "max" (.number 12) .nil) <|
    .table "bag" (.leaf "egg" (.text "golden") (.leaf "coin" (.number 5) .nil)) .nil
  distinct := by simp [Tree.Distinct, Tree.keys]

/-- The table under `hp` takes the place of the leaf, and the bag holds what was in both bags. -/
theorem lookup?_merge_packAndChest :
    pack.tree.Dotless ∧ chest.tree.Dotless ∧ (pack.merge chest).lookup? "hp" = none ∧
      (pack.merge chest).lookup? "hp.max" = some (.number 12) ∧
      (pack.merge chest).lookup? "bag.rope" = some (.text "old") ∧
      (pack.merge chest).lookup? "bag.egg" = some (.text "golden") ∧
      pack.merge empty = pack.pruned ∧ empty.merge chest = chest := by
  have hpack : pack.tree.Dotless := by decide
  have hchest : chest.tree.Dotless := by decide
  have filled : chest.tree.Filled := by decide
  obtain ⟨merged, lower, upper⟩ := lookup?_merge hpack hchest
  refine ⟨hpack, hchest, ?_, ?_, ?_, ?_, lower, upper.trans (State.ext filled.pruned_eq)⟩
  · exact (merged "hp").trans (by decide +kernel)
  · exact (merged "hp.max").trans (by decide +kernel)
  · exact (merged "bag.rope").trans (by decide +kernel)
  · exact (merged "bag.egg").trans (by decide +kernel)

end State

end Gamebook
