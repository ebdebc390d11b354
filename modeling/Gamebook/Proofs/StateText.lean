import Gamebook.Proofs.JsonText
import Gamebook.Proofs.NumberText
import Gamebook.Proofs.Related
import Gamebook.State.Document

/-!
# States read back

The document of a state is read as a state with the same keys in the same order and the same texts,
and with equal numbers where the text of a number reads as an equal number. Main definitions:
`Scalar.Alike`, `State.Alike`, `Number.ReadsBack`, `Tree.SpelledBy`. Main statement:
`State.read_text`.
-/

namespace Gamebook

/-- Whether the text of a number in a document reads as an equal number. -/
def Number.ReadsBack (x : Float) : Prop :=
  ∃ m, Json.readNumber (jsonText x) = .ok (m, []) ∧ (x == m.toFloat) = true

/-- Leaves that are the same, or equal numbers. -/
inductive Scalar.Alike : Scalar → Scalar → Prop where
  | refl {leaf} : Alike leaf leaf
  | number {x y} : (x == y) = true → Alike (.number x) (.number y)

/-- States with the same keys in the same order and alike leaves. -/
def State.Alike (state other : State) : Prop :=
  state.tree.Related Scalar.Alike other.tree

instance : DecidableEq State :=
  fun state other => decidable_of_iff (state.tree = other.tree) ⟨State.ext, congrArg State.tree⟩

/-- A leaf whose number reads back is read as an alike leaf. -/
lemma Scalar.reread_toJson {leaf : Scalar} (h : ∀ x, leaf = .number x → Number.ReadsBack x) :
    ∃ j leaf', leaf.toJson.reread? = some j ∧ j.fault? = none ∧
      State.entryOf j = .ok (.scalar leaf') ∧ leaf.Alike leaf' := by
  cases leaf with
  | text s => exact ⟨.str s, .text s, rfl, rfl, rfl, .refl⟩
  | number x =>
    obtain ⟨m, hm, hx⟩ := h x rfl
    suffices (Scalar.number x).toJson.reread? = some (.num m) from
      ⟨.num m, .number m.toFloat, this, rfl, rfl, .number hx⟩
    rw [Number.jsonText] at hm
    rw [toJson]
    cases e : Number.smallInteger? x with
    | some n =>
      rw [e] at hm
      simp only [Json.reread?, Json.Number.reread?, Json.Number.text, hm, Option.map_some]
    | none =>
      rw [e] at hm
      by_cases hf : x.isFinite
      · simp only [hf, if_true, Json.reread?, Json.Number.reread?, Json.Number.text, hm,
          Option.map_some]
      · rw [Number.fractionText_of_not_isFinite hf] at hm
        cases hm

/-- Alike leaves are displayed alike. -/
lemma Scalar.Alike.display {x y : Scalar} (h : x.Alike y) : x.display = y.display := by
  cases h with
  | refl => rfl
  | number h => exact Number.display_congr h

namespace Tree

/-- The entries of a tree before those of another one. -/
def append : Tree → Tree → Tree
  | nil, other => other
  | leaf key value rest, other => leaf key value (rest.append other)
  | table key sub rest, other => table key sub (rest.append other)

/-- Nothing comes after the entries. -/
lemma append_nil {tree : Tree} : tree.append nil = tree := by
  induction tree with
  | nil => rfl
  | leaf key value rest ih => exact congrArg (leaf key value) ih
  | table key sub rest _ ih => exact congrArg (table key sub) ih

/-- An entry with a new key comes after the others, before what else comes. -/
lemma append_insert {tree other : Tree} {key value} (h : key ∉ tree.keys) :
    (tree.insert key value).append other = tree.append (cons key value other) := by
  induction tree with
  | nil => cases value <;> rfl
  | leaf k v rest ih =>
    rw [keys, List.mem_cons, not_or] at h
    rw [insert, if_neg (Ne.symm h.1)]
    exact congrArg (leaf k v) (ih h.2)
  | table k sub rest _ ih =>
    rw [keys, List.mem_cons, not_or] at h
    rw [insert, if_neg (Ne.symm h.1)]
    exact congrArg (table k sub) (ih h.2)

/-- Keys that are new to a tree are new to it after another key has been inserted. -/
lemma new_insert {tree other : Tree} {key value} (hkey : key ∉ tree.keys)
    (h : ∀ k ∈ other.keys, k ∉ tree.keys) (hother : key ∉ other.keys) :
    ∀ k ∈ other.keys, k ∉ (tree.insert key value).keys := by
  intro k hk
  rw [keys_insert, if_neg hkey, List.mem_append, List.mem_singleton, not_or]
  exact ⟨h k hk, fun e => hother (e ▸ hk)⟩

/-- Whether fields are read as the entries of a tree. -/
inductive SpelledBy : Tree → List (String × Json) → Prop where
  | nil : SpelledBy nil []
  | leaf {key j value rest fields} :
      State.entryOf j = .ok (.scalar value) → SpelledBy rest fields →
      SpelledBy (leaf key value rest) ((key, j) :: fields)
  | table {key inner sub rest fields} :
      SpelledBy sub inner → SpelledBy rest fields →
      SpelledBy (table key sub rest) ((key, .obj inner) :: fields)

/-- Whether the numbers of all leaves read back. -/
def ReadsBack (tree : Tree) : Prop :=
  ∀ path x, (path, Scalar.number x) ∈ tree.leaves → Number.ReadsBack x

/-- The numbers before and after an entry read back. -/
lemma ReadsBack.of_leaf {key value} {rest : Tree} (h : (leaf key value rest).ReadsBack) :
    (∀ x, value = .number x → Number.ReadsBack x) ∧ rest.ReadsBack := by
  refine ⟨?_, fun path x hx => h path x (List.mem_cons_of_mem _ hx)⟩
  rintro x rfl
  exact h [key] x List.mem_cons_self

/-- The numbers of a table and after it read back. -/
lemma ReadsBack.of_table {key} {sub rest : Tree} (h : (table key sub rest).ReadsBack) :
    sub.ReadsBack ∧ rest.ReadsBack := by
  refine ⟨fun path x hx => h (key :: path) x ?_, fun path x hx => h path x ?_⟩
  · exact List.mem_append_left _ (List.mem_map.2 ⟨_, hx, rfl⟩)
  · exact List.mem_append_right _ hx

end Tree

namespace State

/-- The fields of a tree are not torn. -/
lemma fieldsFault?_toFields {tree : Tree} : Json.fieldsFault? tree.toFields = none := by
  induction tree with
  | nil => rfl
  | leaf key value more ih =>
    have hv : value.toJson.fault? = none := by
      cases value with
      | text s => rfl
      | number x =>
        rw [Scalar.toJson]
        split
        · rfl
        · split <;> rfl
    rw [Tree.toFields, Json.fieldsFault?, hv, ih]
    rfl
  | table key sub more ihsub ih =>
    rw [Tree.toFields, Json.fieldsFault?, Json.fault?, ihsub, ih]
    rfl

/-- Fields that are not torn are inserted one after the other. -/
lemma addWhole_eq {state fields} (h : Json.fieldsFault? fields = none) :
    addWhole state fields = addFields state fields := by
  induction fields generalizing state with
  | nil => rw [addWhole, addFields]
  | cons field fields ih =>
    obtain ⟨key, value⟩ := field
    rw [Json.fieldsFault?, Option.or_eq_none_iff] at h
    rw [addWhole, addFields, Json.whole, h.1]
    simp only [bind, Except.bind]
    cases entryOf value with
    | error mismatch => rfl
    | ok entry => exact ih h.2

/-- The fields of a tree are inserted as its entries, after those that are there already. -/
lemma addFields_of_spelledBy {tree : Tree} {fields} (h : tree.SpelledBy fields) (hd : tree.Distinct)
    {state : State} (hs : ∀ key ∈ tree.keys, key ∉ state.tree.keys) :
    ∃ state', addFields state fields = .ok state' ∧ state'.tree = state.tree.append tree := by
  induction h generalizing state with
  | nil => exact ⟨state, by rw [addFields], Tree.append_nil.symm⟩
  | @leaf key j value rest fields hentry _ ih =>
    have hkey := hs key List.mem_cons_self
    have hnew := fun k hk => hs k (List.mem_cons_of_mem _ hk)
    obtain ⟨state', hstate, htree⟩ :=
      @ih hd.2 (state.insert key (.scalar value)) (Tree.new_insert hkey hnew hd.1)
    refine ⟨state', ?_, htree.trans (Tree.append_insert hkey)⟩
    rw [addFields, hentry]
    exact hstate
  | @table key inner sub rest fields _ _ ihsub ih =>
    have hkey := hs key List.mem_cons_self
    obtain ⟨table, htable, hsub⟩ := @ihsub hd.2.1 .empty (fun _ _ => List.not_mem_nil)
    have hnew := fun k hk => hs k (List.mem_cons_of_mem _ hk)
    obtain ⟨state', hstate, htree⟩ :=
      @ih hd.2.2 (state.insert key (.table table)) (Tree.new_insert hkey hnew hd.1)
    refine ⟨state', ?_, htree.trans ?_⟩
    · rw [addFields, entryOf, htable]
      exact hstate
    · rw [show (state.insert key (.table table)).tree = state.tree.insert key (.table sub) from
        congrArg (fun t => state.tree.insert key (.table t)) hsub]
      exact Tree.append_insert hkey

/-- The fields of a tree whose numbers read back are read as those of an alike tree. -/
lemma rereadFields?_toFields {tree : Tree} (hn : tree.ReadsBack) :
    ∃ fields tree', Json.rereadFields? tree.toFields = some fields ∧
      Json.fieldsFault? fields = none ∧ tree.Related Scalar.Alike tree' ∧
        tree'.SpelledBy fields := by
  induction tree with
  | nil => exact ⟨[], .nil, rfl, rfl, .nil, .nil⟩
  | leaf key value rest ih =>
    obtain ⟨hv, hrest⟩ := hn.of_leaf
    obtain ⟨j, value', hj, hwhole, hentry, hvalue⟩ := Scalar.reread_toJson hv
    obtain ⟨fields, rest', hf, hfault, hrel, hspelled⟩ := ih hrest
    refine ⟨(key, j) :: fields, .leaf key value' rest', ?_, ?_, .leaf hvalue hrel,
      .leaf hentry hspelled⟩
    · simp [Tree.toFields, Json.rereadFields?, hj, hf]
    · simp [Json.fieldsFault?, hwhole, hfault]
  | table key sub rest ihsub ih =>
    obtain ⟨hsub, hrest⟩ := hn.of_table
    obtain ⟨inner, sub', hi, hifault, hirel, hispelled⟩ := ihsub hsub
    obtain ⟨fields, rest', hf, hfault, hrel, hspelled⟩ := ih hrest
    refine ⟨(key, .obj inner) :: fields, .table key sub' rest', ?_, ?_, .table hirel hrel,
      .table hispelled hspelled⟩
    · simp [Tree.toFields, Json.rereadFields?, Json.reread?, hi, hf]
    · simp [Json.fieldsFault?, Json.fault?, hifault, hfault]

/-- The object of a state whose numbers read back is read as an alike state. -/
lemma reread_toJson {state : State} (hn : state.tree.ReadsBack) :
    ∃ fields state', state.toJson.reread? = some (.obj fields) ∧ Json.fieldsFault? fields = none ∧
      ofJson (.obj fields) = .ok state' ∧ state.Alike state' := by
  obtain ⟨fields, tree', hf, hfault, hrel, hspelled⟩ := rereadFields?_toFields hn
  obtain ⟨state', hstate, htree⟩ := @addFields_of_spelledBy tree' fields hspelled
    (hrel.distinct state.distinct) .empty (fun _ _ => List.not_mem_nil)
  refine ⟨fields, state', ?_, hfault, (addWhole_eq hfault).trans hstate, ?_⟩
  · rw [toJson, Json.reread?, hf]
    rfl
  · rw [Alike, htree]
    exact hrel

/-- The document of a state whose numbers read back is read as an alike state. -/
lemma read_text {state : State} (hn : state.tree.ReadsBack)
    (hh : state.toJson.height ≤ Json.maxDepth) :
    ∃ state', State.read state.text = .ok state' ∧ state.Alike state' := by
  obtain ⟨fields, state', hread, -, hstate, halike⟩ := reread_toJson hn
  refine ⟨state', ?_, halike⟩
  rw [State.read, Json.decodeText, State.text, Json.compact, String.toList_ofList,
    Json.read_compactChars hread hh]
  simp only [hstate]
  rfl

end State

end Gamebook
