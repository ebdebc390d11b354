import Gamebook.Proofs.BlockText
import Gamebook.Proofs.StateLines

/-!
# Actions read back

An action that is read off a block of code is written as a block of its own. This block is read as
an action with an alike state if the state is writable. A relaxed document may give other states:
it has names for infinities and for what is no number, which are written as `null`, and its escapes
spell separators, which are written as they are. Main statement: `Markup.actionOf_blockText`.
-/

namespace Gamebook.Markup

variable {content : List Char} {state : State} {d : Draft} {span : Span}

lemma actionOf_of_ok (h : State.readRelaxed (withoutErrors content) = .ok state) :
    actionOf content = .setting state := by
  simp only [actionOf, h]

lemma exists_error_actionOf {mismatch}
    (h : State.readRelaxed (withoutErrors content) = .error mismatch) :
    (actionOf content).state = .empty ∧ ∃ message, (actionOf content).error = some message := by
  simp only [actionOf, h]
  exact ⟨trivial, _, rfl⟩

/-- A block of code is reported if its action has an error. -/
lemma Draft.diagnostics_fence :
    (d.fence content span).diagnostics =
      d.diagnostics ++ (actionOf content).error.toList.map fun message =>
        ⟨.noState message, span⟩ := by
  have emitted {d : Draft} {part} : (d.emit part).diagnostics = d.diagnostics := by
    rw [Draft.emit]
    split <;> rfl
  rw [Draft.fence, emitted]
  cases (actionOf content).error with
  | none => exact (List.append_nil _).symm
  | some message => rfl

/--
A block whose lines, those aside that say what was wrong with them, are read as a state is an action
of that state. The lines that are written for the action, with or without a line feed at their end,
are read as an action of an alike state without any report if all numbers of the state are finite and
neither its keys nor its texts have a line or paragraph separator. Else they are reported as an error,
and their action has no state.
-/
theorem actionOf_blockText (content ending : List Char) (state : State)
    (h : State.readRelaxed (withoutErrors content) = .ok state)
    (hending : ending = [] ∨ ending = ['\n']) :
    let body := Text.dropEndWhile (· == '\n') (actionOf content).blockText
    let written := body ++ ending
    actionOf content = .setting state ∧
    (actionOf content).markdown = "\x60\x60\x60json\n".toList ++ body ++ "\n\x60\x60\x60".toList ∧
    (state.isWritable = true →
      ∃ read, actionOf written = .setting read ∧ state.Alike read ∧
        ∀ (d : Draft) (span : Span), (d.fence written span).diagnostics = d.diagnostics) ∧
    (state.isWritable = false →
      (actionOf written).state = .empty ∧
        ∃ message, (actionOf written).error = some message ∧
          ∀ (d : Draft) (span : Span),
            (d.fence written span).diagnostics = d.diagnostics ++ [⟨.noState message, span⟩]) := by
  intro body written
  have action : actionOf content = .setting state := actionOf_of_ok h
  have lines : withoutErrors written = state.toJson.prettyChars 0 ++ ending := by
    have : body = state.toJson.prettyChars 0 := by
      change Text.dropEndWhile _ (actionOf content).blockText = _
      rw [action]
      exact Action.blockText_eq rfl
    change withoutErrors (body ++ ending) = _
    rw [this, withoutErrors_prettyChars hending]
  refine ⟨action, rfl, ?_, ?_⟩
  · intro writable
    obtain ⟨read, hread, alike⟩ := State.readRelaxed_of_isWritable writable hending
    rw [← lines] at hread
    refine ⟨read, actionOf_of_ok hread, alike, fun d span => ?_⟩
    rw [Draft.diagnostics_fence, actionOf_of_ok hread]
    exact List.append_nil _
  · intro unwritable
    have hread := State.readRelaxed_of_not_isWritable unwritable hending
    rw [← lines] at hread
    obtain ⟨empty, message, hmessage⟩ := exists_error_actionOf hread
    refine ⟨empty, message, hmessage, fun d span => ?_⟩
    rw [Draft.diagnostics_fence, hmessage]
    rfl

/-- A block in many ways of writing a state. -/
def cellarBlock : List Char :=
  "// down the stairs\n\x7brats: 0x2A, cold: -.5e3, \x27lamp oil\x27: \x22\\u2014\x22,\n".toList ++
    "wine: [\x27red\x27, \x7bage: 1e16,\x7d],\x7d\nJSON5: no cellar\n".toList

/-- The block of a cellar is read, and so are the lines that are written for its action. -/
theorem actionOf_blockText_cellar :
    ∃ state read, State.readRelaxed (withoutErrors cellarBlock) = .ok state ∧
      actionOf (Text.dropEndWhile (· == '\n') (actionOf cellarBlock).blockText ++ ['\n']) =
        .setting read ∧ state.Alike read := by
  have writable : (State.readRelaxed (withoutErrors cellarBlock)).toOption.any State.isWritable =
      true := by
    decide +kernel
  cases h : State.readRelaxed (withoutErrors cellarBlock) with
  | error mismatch => rw [h] at writable; cases writable
  | ok state =>
    rw [h] at writable
    obtain ⟨read, hread, alike, -⟩ :=
      (actionOf_blockText cellarBlock ['\n'] state h (.inr rfl)).2.2.1 writable
    exact ⟨state, read, rfl, hread, alike⟩

/-- The block of a corridor without an end. -/
def corridorBlock : List Char :=
  "\x7bsteps: Infinity\x7d\n".toList

/-- The block of a corridor without an end is read, but not the lines that are written for it. -/
theorem corridorBlock_lost :
    ∃ state, State.readRelaxed (withoutErrors corridorBlock) = .ok state ∧
      actionOf corridorBlock = .setting state ∧
      ∀ read, actionOf (Text.dropEndWhile (· == '\n') (actionOf corridorBlock).blockText ++ ['\n']) ≠
        .setting read := by
  have accepted : (State.readRelaxed (withoutErrors corridorBlock)).toOption.isSome = true := by
    decide +kernel
  have failed : (actionOf (Text.dropEndWhile (· == '\n')
      (actionOf corridorBlock).blockText ++ ['\n'])).error.isSome = true := by
    decide +kernel
  cases h : State.readRelaxed (withoutErrors corridorBlock) with
  | error mismatch => rw [h] at accepted; cases accepted
  | ok state =>
    refine ⟨state, rfl, actionOf_of_ok h, fun read hread => ?_⟩
    rw [hread] at failed
    cases failed

end Gamebook.Markup
