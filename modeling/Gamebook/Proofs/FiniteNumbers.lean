import Gamebook.Proofs.Integers
import Gamebook.Proofs.Settings

/-!
# Finite numbers

A story may give its settings and actions infinities and what is no number, but the state of a
player holds finite numbers only: an expression has a finite value or none, a text is read as a
number only if that is finite, and the settings are taken out of the state. A document knows no
other numbers either: in their place it has `null`, which is never read as an entry. Main
definitions: `State.isFinite`, `Json.hasNull`. Main statement: `Session.numbers_stay_finite`.
-/

namespace Gamebook

/-- Whether a leaf is a text or a finite number. -/
def Scalar.isFinite : Scalar → Bool
  | .number x => x.isFinite
  | .text _ => true

/-- Whether all numbers of a state are finite. -/
def State.isFinite (state : State) : Bool :=
  state.tree.leaves.all (·.2.isFinite)

section Values

variable {x y : Float}

lemma Value.isFinite_of_finite (h : Value.finite x = .ok (.number y)) : y.isFinite = true := by
  rw [Value.finite] at h
  split at h
  · next hx =>
    cases h
    exact hx
  · cases h

lemma UnaryOp.isFinite_of_apply {op : UnaryOp} {v} (h : op.apply v = .ok (.number y)) :
    y.isFinite = true := by
  cases op with
  | neg => exact Value.isFinite_of_finite h
  | not => cases h

lemma BinaryOp.isFinite_of_apply {op : BinaryOp} {v w} (h : op.apply v w = .ok (.number y)) :
    y.isFinite = true := by
  cases op with
  | add | sub | mul | div | rem | pow => exact Value.isFinite_of_finite h
  | _ => cases h

/-- An operator that the left operand decides gives a truth value. -/
lemma BinaryOp.shortcut?_ne_number {op : BinaryOp} {v} : op.shortcut? v ≠ some (.number y) := by
  intro h
  cases op with
  | and | or =>
    rw [shortcut?] at h
    split at h
    · cases h
    · cases h
  | _ => cases h

/-- The number that an expression has as its value is finite. -/
lemma Expr.isFinite_of_value {e : Expr} (h : e.value = .ok (.number y)) : y.isFinite = true := by
  cases e with
  | number x => exact Value.isFinite_of_finite h
  | bool b => cases h
  | var name => cases h
  | dice count sides => cases h
  | unary op operand =>
    rw [value] at h
    split at h
    · cases h
    · exact UnaryOp.isFinite_of_apply h
  | binary op left right =>
    rw [value] at h
    split at h
    · cases h
    · split at h
      · next v hv =>
        cases h
        exact (BinaryOp.shortcut?_ne_number hv).elim
      · split at h
        · cases h
        · exact BinaryOp.isFinite_of_apply h

lemma isFinite_of_evaluateText {text} (h : evaluateText text = .ok (.number y)) :
    y.isFinite = true := by
  rw [evaluateText] at h
  split at h
  · cases h
  · rw [Expr.evaluate] at h
    split at h
    · cases h
    · exact Expr.isFinite_of_value h

end Values

section Assignments

variable {sheet : Sheet} {g : Generator}

/-- A text is read as a finite number or stays a text. -/
lemma Scalar.isFinite_coerce {s} : (coerce s).isFinite = true := by
  rw [coerce]
  split
  · split
    · next h => exact (Bool.and_eq_true_iff.1 h).1
    · rfl
  · rfl

lemma isFinite_leafOfText {text} : (leafOfText sheet text).isFinite = true := by
  rw [leafOfText]
  split
  · next h => exact isFinite_of_evaluateText h
  · rfl
  · exact Scalar.isFinite_coerce

lemma isFinite_assignedValue {path raw} :
    (assignedValue path raw sheet g).1.leaf.isFinite = true := by
  rw [assignedValue]
  obtain ⟨rolled, g⟩ := rollTerms (substitute sheet (assignedText path raw)) g
  dsimp only
  exact isFinite_leafOfText

lemma isFinite_assignedLeaves {assignments rest} :
    ∀ e ∈ assignedLeaves assignments rest sheet g, e.2.isFinite = true := by
  induction rest generalizing sheet g with
  | nil => exact List.forall_mem_nil _
  | cons assignment rest ih =>
    obtain ⟨path, raw⟩ := assignment
    have finite := @isFinite_assignedValue (scope assignments sheet) g path raw
    rw [assignedLeaves]
    generalize assignedValue path raw (scope assignments sheet) g = assigned at finite
    exact List.forall_mem_cons.2 ⟨finite, ih⟩

namespace Part

mutual

/-- Whatever a part assigns is finite. -/
lemma isFinite_assigned {sheet g} (part : Part) :
    ∀ e ∈ part.assigned sheet g, e.2.isFinite = true := by
  cases part with
  | action a => exact isFinite_assignedLeaves
  | condition c whenTrue whenFalse =>
    cases h : (decideCondition c.expression sheet g).1.holds with
    | true =>
      simp only [assigned, h, if_true]
      exact isFinite_assignedByAll whenTrue
    | false =>
      simp only [assigned, h, Bool.false_eq_true, if_false]
      exact isFinite_assignedByAll whenFalse
  | _ => exact List.forall_mem_nil _

/-- Whatever parts assign is finite. -/
lemma isFinite_assignedByAll {sheet g} (parts : List Part) :
    ∀ e ∈ assignedByAll sheet g parts, e.2.isFinite = true := by
  cases parts with
  | nil => exact List.forall_mem_nil _
  | cons part parts =>
    rw [assignedByAll]
    exact List.forall_mem_append.2 ⟨isFinite_assigned part, isFinite_assignedByAll parts⟩

end

end Part

end Assignments

section Screens

variable {state : State}

lemma State.isFinite_flatten (h : state.isFinite = true) :
    ∀ e ∈ state.flatten.entries, e.2.isFinite = true := by
  intro e he
  obtain ⟨leaf, hleaf, rfl⟩ := List.mem_map.1 (Sheet.mem_ofList he)
  exact List.all_eq_true.1 h leaf hleaf

lemma Sheet.isFinite_rebuild {sheet : Sheet} (h : ∀ e ∈ sheet.entries, e.2.isFinite = true) :
    sheet.rebuild.isFinite = true := by
  refine List.all_eq_true.2 fun e he => ?_
  obtain he | ⟨f, hf, rfl⟩ := State.mem_leaves_insertLeaves he
  · cases he
  · exact h f hf

/-- The state that a section leaves is finite if the one before was, whatever the settings are. -/
lemma Section.isFinite_resolve {s : Section} {settings : State} {g g' : Generator}
    {passage : Passage} (h : s.resolve state settings g = (passage, g'))
    (hs : state.isFinite = true) : passage.state.isFinite = true := by
  cases h
  refine Sheet.isFinite_rebuild fun e he => ?_
  obtain ⟨he, apart⟩ := List.mem_filter.1 he
  rw [Part.readAll_sheet] at he
  obtain he | he := Sheet.mem_insertAll he
  · obtain he | he := Sheet.mem_insertAll he
    · exact (Sheet.not_contains_iff.1 apart (List.mem_map_of_mem he)).elim
    · exact State.isFinite_flatten hs e he
  · exact Part.isFinite_assignedByAll s.parts e he

lemma Story.Trail.isFinite_screen {story : Story} {revisits depth visited id g screen g' log}
    (h : story.Trail revisits depth visited id state g screen g' log)
    (hs : state.isFinite = true) : screen.state.isFinite = true := by
  induction h with
  | spent => exact hs
  | missing => exact hs
  | stay _ hread => exact Section.isFinite_resolve hread hs
  | leave _ hread _ _ ih => exact ih (Section.isFinite_resolve hread hs)

end Screens

namespace Json

mutual

/-- Whether a value or a part of it is `null`. -/
def hasNull : Json → Bool
  | null => true
  | arr items => itemsHaveNull items
  | obj fields => fieldsHaveNull fields
  | _ => false

/-- Whether one of the items or a part of it is `null`. -/
def itemsHaveNull : List Json → Bool
  | [] => false
  | item :: items => item.hasNull || itemsHaveNull items

/-- Whether the value of one of the fields or a part of it is `null`. -/
def fieldsHaveNull : List (String × Json) → Bool
  | [] => false
  | (_, value) :: fields => value.hasNull || fieldsHaveNull fields

end

end Json

section Documents

lemma Scalar.hasNull_toJson {leaf : Scalar} (h : leaf.isFinite = true) :
    leaf.toJson.hasNull = false := by
  cases leaf with
  | text s => rfl
  | number x =>
    have h : x.isFinite = true := h
    rw [toJson]
    split
    · rfl
    · rw [if_pos h]
      rfl

/-- The JSON value of a finite leaf is read as an alike leaf. -/
lemma Scalar.entryOf_toJson {leaf : Scalar} (h : leaf.isFinite = true) :
    ∃ leaf', State.entryOf leaf.toJson = .ok (.scalar leaf') ∧ leaf.Alike leaf' := by
  cases leaf with
  | text s => exact ⟨_, rfl, .refl⟩
  | number x =>
    have h : x.isFinite = true := h
    rw [toJson]
    cases e : Number.smallInteger? x with
    | some n => exact ⟨_, rfl, (Number.alike_of_smallInteger? e).2⟩
    | none =>
      rw [if_pos h]
      exact ⟨_, rfl, .refl⟩

/-- The fields of a tree with finite leaves have no `null` and are read as alike entries. -/
lemma Tree.toFields_of_isFinite {tree : Tree} (h : ∀ e ∈ tree.leaves, e.2.isFinite = true) :
    Json.fieldsHaveNull tree.toFields = false ∧
      ∃ tree', tree.Related Scalar.Alike tree' ∧ tree'.SpelledBy tree.toFields := by
  induction tree with
  | nil => exact ⟨rfl, .nil, .nil, .nil⟩
  | leaf key value rest ih =>
    obtain ⟨hvalue, hrest⟩ := List.forall_mem_cons.1 h
    obtain ⟨value', hentry, halike⟩ := Scalar.entryOf_toJson hvalue
    obtain ⟨hnull, rest', hrel, hspelled⟩ := ih hrest
    refine ⟨?_, .leaf key value' rest', .leaf halike hrel, .leaf hentry hspelled⟩
    rw [toFields, Json.fieldsHaveNull, Scalar.hasNull_toJson hvalue, hnull]
    rfl
  | table key sub rest ihsub ih =>
    obtain ⟨hsub, hrest⟩ := List.forall_mem_append.1 h
    have hsub : ∀ e ∈ sub.leaves, e.2.isFinite = true := fun e he =>
      hsub (key :: e.1, e.2) (List.mem_map.2 ⟨e, he, rfl⟩)
    obtain ⟨hnullsub, sub', hrelsub, hspelledsub⟩ := ihsub hsub
    obtain ⟨hnull, rest', hrel, hspelled⟩ := ih hrest
    refine ⟨?_, .table key sub' rest', .table hrelsub hrel, .table hspelledsub hspelled⟩
    rw [toFields, Json.fieldsHaveNull, Json.hasNull, hnullsub, hnull]
    rfl

/-- The object of a state with finite numbers is read as an alike state. -/
lemma State.ofJson_toJson {state : State} (h : state.isFinite = true) :
    ∃ read, ofJson state.toJson = .ok read ∧ state.Alike read := by
  obtain ⟨-, tree', hrel, hspelled⟩ := Tree.toFields_of_isFinite (List.all_eq_true.1 h)
  obtain ⟨read, hread, htree⟩ := @addFields_of_spelledBy tree' _ hspelled
    (hrel.distinct state.distinct) .empty (fun _ _ => List.not_mem_nil)
  refine ⟨read, ?_, ?_⟩
  · rw [toJson, ofJson, addWhole_eq fieldsFault?_toFields, hread]
  · rw [Alike, htree]
    exact hrel

/-- Whether the document of a state has no `null` and is read as a state. -/
def State.Documented (state : State) : Prop :=
  state.toJson.hasNull = false ∧ ∃ read, ofJson state.toJson = .ok read

lemma State.documented_of_isFinite {state : State} (h : state.isFinite = true) :
    state.Documented := by
  obtain ⟨read, hread, -⟩ := ofJson_toJson h
  exact ⟨(Tree.toFields_of_isFinite (List.all_eq_true.1 h)).1, read, hread⟩

end Documents

namespace Session

variable {session next : Session}

/-- Whether the numbers of the state and of the bookmark's state are finite. -/
structure Finite (session : Session) : Prop where
  /-- The numbers of the state on the screen. -/
  screen : session.screen.state.isFinite = true
  /-- The numbers of the bookmark's state. -/
  bookmark : ∀ b, session.bookmark = some b → b.state.isFinite = true

lemma finite_fresh {story config g} : Finite (fresh story config g) :=
  ⟨rfl, by rintro _ ⟨⟩⟩

/-- The numbers are finite after a section is entered with a state whose numbers are. -/
lemma finite_enter {id} {state : State} (hs : state.isFinite = true)
    (e : session.enter id state = .ok next) : Finite next := by
  obtain ⟨-, rfl⟩ := enter_cases e
  refine ⟨?_, ?_⟩
  · have trail := @Story.trail_resolveNext session.story session.config id state session.generator
    exact trail.isFinite_screen hs
  · rintro b ⟨⟩
    exact hs

lemma invariant_finite : Invariant Finite fun state => state.isFinite = true where
  empty := rfl
  screen h := h.screen
  enter _ hs e := finite_enter hs e

/--
Whatever numbers the actions and settings of a story have, after a session is opened, anew or from a
bookmark with finite numbers, and any steps are taken, the numbers of the state and of the
bookmark's state are finite. So neither state has a `null` in its document, and both documents are
read.
-/
theorem numbers_stay_finite (story : Story) (config : Config) (g : Generator) (opening : Opening)
    (first : Session) (steps : List Step) (hb : opening.state.isFinite = true)
    (ho : opening.session story config g = .ok first) :
    let session := first.run steps
    (session.screen.state.isFinite = true ∧ session.screen.state.Documented) ∧
      ∀ b, session.bookmark = some b → b.state.isFinite = true ∧ b.state.Documented := by
  intro session
  have opened : Finite first := by
    cases opening with
    | anew =>
      cases ho
      exact finite_fresh
    | resumed b => exact finite_enter hb ho
  have finite : Finite session := invariant_finite.run opened
  exact ⟨⟨finite.screen, State.documented_of_isFinite finite.screen⟩,
    fun b h => ⟨finite.bookmark b h, State.documented_of_isFinite (finite.bookmark b h)⟩⟩

/-- A well without a bottom, with a number that is none and quotients and powers without a value. -/
def bottomlessWell : Story where
  title := "Bottomless well"
  description := []
  settings := .setting (.insert .empty "depth" (.scalar (.number (1 / 0))))
  sections := [
    { id := "well"
      heading := "Well"
      parts := [
        .action (.setting (.insert (.insert (.insert .empty
          "echo" (.scalar (.number (0 / 0))))
          "rope" (.scalar (.text "+={depth}")))
          "stones" (.scalar (.text "10 ^ 400")))),
        .link ⟨"Throw a stone", "#well", none⟩,
        .link ⟨"Go away", "#well", none⟩] }]
  images := []

/-- A traveller with a rope throws a stone into the well. -/
theorem numbers_stay_finite_bottomlessWell :
    let opening : Opening := .resumed ⟨"well", .insert .empty "rope" (.scalar (.number 0.5))⟩
    opening.state.isFinite = true ∧
      ∃ first, opening.session bottomlessWell {} (.ofSeed 3) = .ok first ∧
        let session := first.run [.choose 0]
        (session.screen.state.isFinite = true ∧ session.screen.state.Documented) ∧
          ∀ b, session.bookmark = some b → b.state.isFinite = true ∧ b.state.Documented := by
  intro opening
  obtain ⟨s, hs⟩ :=
    Option.isSome_iff_exists.1 (by decide : (bottomlessWell.section? "well").isSome)
  obtain ⟨first, ho⟩ : ∃ first, opening.session bottomlessWell {} (.ofSeed 3) = .ok first :=
    Opening.session_resumed hs
  have hb : opening.state.isFinite = true := by decide +kernel
  exact ⟨hb, first, ho,
    numbers_stay_finite bottomlessWell {} (.ofSeed 3) opening first [.choose 0] hb ho⟩

end Session

end Gamebook
