import Gamebook.State.Basic
import Mathlib.Data.List.Forall2
import Mathlib.Tactic.Lemma

/-!
# Related leaves

Where a leaf goes in a sheet or a tree depends on its path and on nothing else. So trees that have
the same shape and related leaves, for any relation, still do after every operation. Main
definitions: `Sheet.Related`, `Tree.Related`. Main statements: `Tree.Related.flatten`,
`Sheet.Related.overlay`, `Sheet.Related.without`, `Sheet.Related.rebuild`.
-/

namespace Gamebook

variable {R : Scalar → Scalar → Prop}

/-- Entries with the same keys in the same order and related leaves. -/
abbrev RelatedEntries (R : Scalar → Scalar → Prop) :
    List (String × Scalar) → List (String × Scalar) → Prop :=
  List.Forall₂ fun e f => e.1 = f.1 ∧ R e.2 f.2

/-- Sheets with the same paths in the same order and related leaves. -/
def Sheet.Related (R : Scalar → Scalar → Prop) (a b : Sheet) : Prop :=
  RelatedEntries R a.entries b.entries

/-- Trees of the same shape with related leaves. -/
inductive Tree.Related (R : Scalar → Scalar → Prop) : Tree → Tree → Prop where
  | nil : Related R nil nil
  | leaf {key x y a b} : R x y → Related R a b → Related R (.leaf key x a) (.leaf key y b)
  | table {key s t a b} : Related R s t → Related R a b →
      Related R (.table key s a) (.table key t b)

/-- Values of the same shape with related leaves. -/
inductive Tree.Value.Related (R : Scalar → Scalar → Prop) : Value → Value → Prop where
  | scalar {x y} : R x y → Related R (.scalar x) (.scalar y)
  | table {s t} : Tree.Related R s t → Related R (.table s) (.table t)

namespace RelatedEntries

variable {a b : List (String × Scalar)}

/-- Related entries have related leaves at every key. -/
lemma get? (h : RelatedEntries R a b) {key} :
    Option.Rel R (Ordered.get? key a) (Ordered.get? key b) := by
  induction h with
  | nil => exact .none
  | @cons e f a b h _ ih =>
    obtain ⟨k, x⟩ := e
    obtain ⟨k', y⟩ := f
    obtain ⟨rfl, hxy⟩ := h
    by_cases e : k = key
    · simpa only [Ordered.get?, e, if_true] using .some hxy
    · simpa only [Ordered.get?, e, if_false] using ih

/-- Related entries stay related when related leaves are put. -/
lemma put (h : RelatedEntries R a b) {key x y} (hxy : R x y) :
    RelatedEntries R (Ordered.put key x a) (Ordered.put key y b) := by
  induction h with
  | nil => exact .cons ⟨rfl, hxy⟩ .nil
  | @cons e f a b h hab ih =>
    obtain ⟨k, u⟩ := e
    obtain ⟨k', v⟩ := f
    obtain ⟨rfl, huv⟩ := h
    by_cases e : k = key
    · simpa only [Ordered.put, e, if_true] using .cons ⟨rfl, hxy⟩ hab
    · simpa only [Ordered.put, e, if_false] using .cons ⟨rfl, huv⟩ ih

/-- Related entries stay related when entries are chosen by their keys. -/
lemma filter (h : RelatedEntries R a b) {p q : String → Bool} (hpq : ∀ key, p key = q key) :
    RelatedEntries R (a.filter (p ·.1)) (b.filter (q ·.1)) := by
  induction h with
  | nil => exact .nil
  | @cons e f a b h hab ih =>
    have he : q f.1 = p e.1 := by rw [h.1, hpq]
    simp only [List.filter_cons, he]
    by_cases hp : p e.1
    · simpa only [hp, if_true] using .cons h ih
    · simpa only [hp, if_false, Bool.false_eq_true] using ih

end RelatedEntries

namespace Sheet.Related

variable {a b : Sheet}

/-- Related sheets have related leaves at every path. -/
lemma get? (h : a.Related R b) {path} : Option.Rel R (a.get? path) (b.get? path) :=
  RelatedEntries.get? h

/-- Related sheets stay related when related leaves are inserted. -/
lemma insert (h : a.Related R b) {path x y} (hxy : R x y) :
    (a.insert path x).Related R (b.insert path y) :=
  RelatedEntries.put h hxy

/-- Related sheets stay related when related leaves are inserted one after the other. -/
lemma insertAll (h : a.Related R b) {leaves leaves'} (hl : RelatedEntries R leaves leaves') :
    (a.insertAll leaves).Related R (b.insertAll leaves') := by
  induction hl generalizing a b with
  | nil => exact h
  | @cons e f _ _ hef _ ih =>
    obtain ⟨k, x⟩ := e
    obtain ⟨k', y⟩ := f
    obtain ⟨rfl, hxy⟩ := hef
    exact ih (h.insert hxy)

/-- Sheets made of related leaves are related. -/
lemma ofList {leaves leaves'} (hl : RelatedEntries R leaves leaves') :
    (Sheet.ofList leaves).Related R (Sheet.ofList leaves') :=
  insertAll (a := .empty) (b := .empty) .nil hl

/-- Related sheets stay related under related sheets. -/
lemma overlay (h : a.Related R b) {u v : Sheet} (huv : u.Related R v) :
    (a.overlay u).Related R (b.overlay v) :=
  h.insertAll huv

/-- Related sheets stay related without the paths of a sheet. -/
lemma without (h : a.Related R b) {other : Sheet} : (a.without other).Related R (b.without other) :=
  RelatedEntries.filter (p := (!other.contains ·)) (q := (!other.contains ·)) h fun _ => rfl

end Sheet.Related

namespace Tree.Related

variable {a b : Tree}

/-- Trees with related leaves have leaves that are related in a weaker way. -/
lemma imp (h : a.Related R b) {S : Scalar → Scalar → Prop} (hi : ∀ {x y}, R x y → S x y) :
    a.Related S b := by
  induction h with
  | nil => exact .nil
  | leaf hxy _ ih => exact .leaf (hi hxy) ih
  | table _ _ ihs ih => exact .table ihs ih

/-- Related trees have the same keys. -/
lemma keys (h : a.Related R b) : a.keys = b.keys := by
  induction h with
  | nil => rfl
  | leaf _ _ ih => exact congrArg (_ :: ·) ih
  | table _ _ _ ih => exact congrArg (_ :: ·) ih

/-- The keys of a tree are distinct if those of a related tree are. -/
lemma distinct (h : a.Related R b) (hd : a.Distinct) : b.Distinct := by
  induction h with
  | nil => exact hd
  | leaf _ hab ih => exact ⟨hab.keys ▸ hd.1, ih hd.2⟩
  | table _ hab ihs ih => exact ⟨hab.keys ▸ hd.1, ihs hd.2.1, ih hd.2.2⟩

/-- Related trees have related values under every key. -/
lemma get? (h : a.Related R b) {key} : Option.Rel (Value.Related R) (a.get? key) (b.get? key) := by
  induction h with
  | nil => exact .none
  | @leaf k x y a b hxy _ ih =>
    by_cases e : k = key
    · simpa only [Tree.get?, e, if_true] using .some (.scalar hxy)
    · simpa only [Tree.get?, e, if_false] using ih
  | @table k s t a b hst _ _ ih =>
    by_cases e : k = key
    · simpa only [Tree.get?, e, if_true] using .some (.table hst)
    · simpa only [Tree.get?, e, if_false] using ih

/-- Related trees stay related when related values are inserted. -/
lemma insert (h : a.Related R b) {key v w} (hvw : Value.Related R v w) :
    (a.insert key v).Related R (b.insert key w) := by
  have cons {a b} (hab : Tree.Related R a b) :
      (Tree.cons key v a).Related R (Tree.cons key w b) := by
    cases hvw with
    | scalar h => exact .leaf h hab
    | table h => exact .table h hab
  induction h with
  | nil => exact cons .nil
  | @leaf k x y a b hxy hab ih =>
    by_cases e : k = key
    · simpa only [Tree.insert, e, if_true] using cons hab
    · simpa only [Tree.insert, e, if_false] using .leaf hxy ih
  | @table k s t a b hst hab _ ih =>
    by_cases e : k = key
    · simpa only [Tree.insert, e, if_true] using cons hab
    · simpa only [Tree.insert, e, if_false] using .table hst ih

/-- Related trees have related tables under every key. -/
lemma subtable (h : a.Related R b) {key} : (a.subtable key).Related R (b.subtable key) := by
  have h : Option.Rel (Value.Related R) (a.get? key) (b.get? key) := h.get?
  rw [Tree.subtable, Tree.subtable]
  generalize a.get? key = v at h
  generalize b.get? key = w at h
  cases h with
  | none => exact .nil
  | some h =>
    cases h with
    | scalar _ => exact .nil
    | table h => exact h

/-- Related trees stay related when related leaves are inserted at the end of a path. -/
lemma insertPath (h : a.Related R b) {path x y} (hxy : R x y) :
    (a.insertPath path x).Related R (b.insertPath path y) := by
  fun_induction Tree.insertPath path x a generalizing b with
  | case1 => exact h
  | case2 key x a => exact h.insert (.scalar hxy)
  | case3 key next path x a ih => exact h.insert (.table (ih h.subtable hxy))

/-- Related trees have related leaves at the same paths. -/
lemma leaves (h : a.Related R b) :
    List.Forall₂ (fun e f : List String × Scalar => e.1 = f.1 ∧ R e.2 f.2) a.leaves b.leaves := by
  induction h with
  | nil => exact .nil
  | leaf hxy _ ih => exact .cons ⟨rfl, hxy⟩ ih
  | @table key s t a b _ _ ihs ih =>
    refine List.rel_append ?_ ih
    rw [List.forall₂_map_left_iff, List.forall₂_map_right_iff]
    exact ihs.imp fun e f h => ⟨congrArg (key :: ·) h.1, h.2⟩

/-- Related trees have related sheets. -/
lemma flatten (h : a.Related R b) : a.flatten.Related R b.flatten := by
  refine .ofList (List.forall₂_map_left_iff.2 (List.forall₂_map_right_iff.2 ?_))
  exact h.leaves.imp fun e f h => ⟨congrArg joinPath h.1, h.2⟩

end Tree.Related

/-- Related sheets make up related states. -/
lemma Sheet.Related.rebuild {a b : Sheet} (h : a.Related R b) :
    a.rebuild.tree.Related R b.rebuild.tree := by
  suffices ∀ {leaves leaves'}, RelatedEntries R leaves leaves' →
      ∀ {s t : State}, s.tree.Related R t.tree →
      (leaves.foldl (fun state e => state.insertPath (splitPath e.1) e.2) s).tree.Related R
        (leaves'.foldl (fun state e => state.insertPath (splitPath e.1) e.2) t).tree from
    this h .nil
  intro leaves leaves' hl
  induction hl with
  | nil => exact id
  | @cons e f _ _ hef _ ih =>
    obtain ⟨k, x⟩ := e
    obtain ⟨k', y⟩ := f
    obtain ⟨rfl, hxy⟩ := hef
    exact fun h => ih (h.insertPath hxy)

end Gamebook
