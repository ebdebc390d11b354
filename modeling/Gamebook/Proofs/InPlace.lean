import Gamebook.Proofs.Plays

/-!
# Calls in place

A call changes a session where it stands, one thing after another, so that what was changed before a
fault would stay. No call changes anything before its last check: each one gives the screen of the
step that the player takes and leaves the session after it, or its fault and the session as it was.
So calls that fail can be left out of a play. Main definitions: `Session.Call`, `Session.calls`,
`Session.succeeding`. Main statements: `Session.call_eq`, `Session.calls_succeeding`.
-/

namespace Gamebook

/-- Whether a story has no section with an id. -/
def Story.Lacks (story : Story) (id : String) : Prop :=
  ∀ s ∈ story.sections, s.id ≠ id

namespace Session

/-- What is done to a session where it stands; what has been changed stays if it fails. -/
abbrev Call (α : Type) := ExceptT Fault (StateM Session) α

namespace Call

/-- Makes the screen of a section, if it exists, and notes it and where the player has entered. -/
def enter (id : String) (state : State) : Call Unit := do
  let session ← get
  if (session.story.section? id).isNone then throw (.sectionNotFound id)
  let (screen, g) := session.story.resolveNext session.config id state session.generator
  modify fun session => { session with generator := g }
  modify fun session => { session with screen := screen }
  modify fun session => { session with bookmark := some ⟨id, state⟩ }

/-- Enters a section, or the first one, with the empty state. -/
def start (id : Option String) : Call Screen := do
  let session ← get
  let id ← ofExcept (session.startId id)
  enter id .empty
  return (← get).screen

/-- Follows a choice of the screen. -/
def choose (index : Nat) : Call Screen := do
  let session ← get
  match session.choices[index]? with
  | none => throw (.invalidChoice index session.choices.length)
  | some choice =>
    enter choice.target session.screen.state
    return (← get).screen

/-- A step as a call. -/
def ofStep : Step → Call Screen
  | .start id => start id
  | .choose index => choose index

end Call

/-- What a call gives, and the session that it leaves. -/
def call (session : Session) (step : Step) : Except Fault Screen × Session :=
  (Call.ofStep step).run.run session

/-- What calls give one after the other, and the session that they leave. -/
def calls (session : Session) : List Step → List (Except Fault Screen) × Session
  | [] => ([], session)
  | step :: steps =>
    let (result, next) := session.call step
    let (results, last) := next.calls steps
    (result :: results, last)

/-- The calls that succeed among some calls one after the other. -/
def succeeding (session : Session) (steps : List Step) : List Step :=
  ((steps.zip (session.calls steps).1).filter (·.2.isOk)).map (·.1)

/-- An id without the number signs before it. -/
def bareId (id : String) : String :=
  .ofList (id.toList.dropWhile (· = '#'))

/-- What is wrong with a step that leads nowhere. -/
inductive Step.Fails (session : Session) : Step → Fault → Prop where
  | emptyStory : session.story.sections = [] → Fails session (start none) .emptyStory
  | sectionNotFound {id} :
    session.story.Lacks (bareId id) → Fails session (start (some id)) (.sectionNotFound (bareId id))
  | invalidChoice {index} :
    session.choices.length ≤ index →
    Fails session (choose index) (.invalidChoice index session.choices.length)
  | targetNotFound {index choice} :
    session.choices[index]? = some choice → session.story.Lacks choice.target →
    Fails session (choose index) (.sectionNotFound choice.target)

variable {session : Session} {step : Step} {steps : List Step}

namespace Call

/-- A call that goes on with another one, unless it fails. -/
lemma run_bind {α β : Type} {x : Call α} {f : α → Call β} :
    (x >>= f).run.run session =
      match x.run.run session with
      | (.ok a, next) => (f a).run.run next
      | (.error fault, next) => (.error fault, next) := by
  rw [ExceptT.run_bind, StateT.run_bind]
  cases x.run.run session with
  | mk result next => cases result <;> rfl

lemma run_get_bind {β : Type} {f : Session → Call β} :
    (get >>= f).run.run session = (f session).run.run session :=
  rfl

/-- Entering a section in place is entering it, and a fault leaves the session as it was. -/
lemma run_enter {id : String} {state : State} :
    (enter id state).run.run session =
      match session.enter id state with
      | .ok next => (.ok (), next)
      | .error fault => (.error fault, session) := by
  rw [enter, run_get_bind]
  cases h : session.story.section? id with
  | none =>
    rw [enter_missing h]
    rfl
  | some s =>
    rw [enter_found h]
    rfl

/-- The screen is given after a section is entered. -/
lemma run_enter_screen {id : String} {state : State} :
    (do enter id state; return (← get).screen : Call Screen).run.run session =
      match session.enter id state with
      | .ok next => (.ok next.screen, next)
      | .error fault => (.error fault, session) := by
  rw [run_bind, run_enter]
  cases session.enter id state <;> rfl

end Call

/-- A call gives the screen of the step and leaves the session after it, or the fault alone. -/
lemma call_eq : session.call step = ((step.apply session).map (·.screen), session.after step) := by
  have hcall : session.call step =
      match step.apply session with
      | .ok next => (.ok next.screen, next)
      | .error fault => (.error fault, session) := by
    cases step with
    | start id =>
      rw [call, Call.ofStep, Call.start, Call.run_get_bind, Call.run_bind, Step.apply,
        Session.start]
      cases session.startId id with
      | error fault => rfl
      | ok id => exact Call.run_enter_screen
    | choose index =>
      rw [call, Call.ofStep, Call.choose, Call.run_get_bind, Step.apply, Session.choose]
      cases session.choices[index]? with
      | none => rfl
      | some choice => exact Call.run_enter_screen
  rw [hcall, after]
  cases step.apply session <;> rfl

/-- Entering a section fails exactly if the story lacks it. -/
lemma enter_eq_error_iff {id : String} {state : State} {fault : Fault} :
    session.enter id state = .error fault ↔
      session.story.Lacks id ∧ fault = .sectionNotFound id := by
  have hfind : session.story.section? id = none ↔ session.story.Lacks id := by
    simp [Story.section?, Story.Lacks]
  cases h : session.story.section? id with
  | none =>
    rw [enter_missing h, Except.error.injEq, ← hfind, eq_comm]
    exact (and_iff_right h).symm
  | some s =>
    rw [enter_found h, ← hfind, h]
    constructor
    · rintro ⟨⟩
    · rintro ⟨⟨⟩, -⟩

/-- Starting at the first section fails exactly if there is none. -/
lemma start_first_eq_error_iff {fault : Fault} :
    session.start none = .error fault ↔ session.story.sections = [] ∧ fault = .emptyStory := by
  rw [Session.start, startId]
  cases hs : session.story.sections with
  | nil =>
    constructor
    · rintro ⟨⟩
      exact ⟨rfl, rfl⟩
    · rintro ⟨-, rfl⟩
      rfl
  | cons first sections =>
    -- the first section has the name that is entered
    have found : ¬ session.story.Lacks first.id :=
      fun lacks => lacks first (hs ▸ List.mem_cons_self) rfl
    constructor
    · intro h
      exact (found (enter_eq_error_iff.1 h).1).elim
    · rintro ⟨⟨⟩, -⟩

/-- Starting at a section fails exactly if the story lacks it. -/
lemma start_eq_error_iff {id : String} {fault : Fault} :
    session.start (some id) = .error fault ↔
      session.story.Lacks (bareId id) ∧ fault = .sectionNotFound (bareId id) :=
  enter_eq_error_iff

/-- A choice fails exactly if there is no such choice, or the story lacks its target. -/
lemma choose_eq_error_iff {index : Nat} {fault : Fault} :
    session.choose index = .error fault ↔
      (session.choices.length ≤ index ∧ fault = .invalidChoice index session.choices.length) ∨
        ∃ choice, session.choices[index]? = some choice ∧
          session.story.Lacks choice.target ∧ fault = .sectionNotFound choice.target := by
  rw [Session.choose, ← List.getElem?_eq_none_iff]
  cases session.choices[index]? with
  | none => simp [eq_comm]
  | some choice => simp [enter_eq_error_iff]

/-- A step fails exactly if it leads nowhere. -/
lemma apply_eq_error_iff {fault : Fault} :
    step.apply session = .error fault ↔ step.Fails session fault := by
  constructor
  · intro h
    cases step with
    | start id =>
      cases id with
      | none =>
        obtain ⟨empty, rfl⟩ := start_first_eq_error_iff.1 h
        exact .emptyStory empty
      | some id =>
        obtain ⟨lacks, rfl⟩ := start_eq_error_iff.1 h
        exact .sectionNotFound lacks
    | choose index =>
      obtain ⟨past, rfl⟩ | ⟨choice, hc, lacks, rfl⟩ := choose_eq_error_iff.1 h
      · exact .invalidChoice past
      · exact .targetNotFound hc lacks
  · intro h
    cases h with
    | emptyStory empty => exact start_first_eq_error_iff.2 ⟨empty, rfl⟩
    | sectionNotFound lacks => exact start_eq_error_iff.2 ⟨lacks, rfl⟩
    | invalidChoice past => exact choose_eq_error_iff.2 (.inl ⟨past, rfl⟩)
    | targetNotFound hc lacks => exact choose_eq_error_iff.2 (.inr ⟨_, hc, lacks, rfl⟩)

/-- The first of some calls comes before the others. -/
lemma calls_cons : session.calls (step :: steps) =
    ((session.call step).1 :: ((session.call step).2.calls steps).1,
      ((session.call step).2.calls steps).2) :=
  rfl

/-- A call fails as the step does. -/
lemma call_eq_error_iff {fault : Fault} :
    (session.call step).1 = .error fault ↔ step.apply session = .error fault := by
  rw [call_eq]
  cases step.apply session with
  | ok next =>
    constructor
    · rintro ⟨⟩
    · rintro ⟨⟩
  | error other =>
    constructor
    · rintro ⟨⟩
      rfl
    · rintro ⟨⟩
      rfl

/-- A call that fails leaves the session as it was. -/
lemma call_of_error {fault : Fault} (h : (session.call step).1 = .error fault) :
    (session.call step).2 = session := by
  rw [call_eq, after, call_eq_error_iff.1 h]

/-- The calls that succeed give the same without the others, and leave the same session. -/
lemma calls_succeeding : session.calls (session.succeeding steps) =
    ((session.calls steps).1.filter Except.isOk, (session.calls steps).2) := by
  induction steps generalizing session with
  | nil => rfl
  | cons step steps ih =>
    cases hcall : (session.call step).1 with
    | error fault =>
      have hkept : session.succeeding (step :: steps) = session.succeeding steps := by
        rw [succeeding, calls_cons, hcall, call_of_error hcall]
        rfl
      rw [hkept, ih, calls_cons, hcall, call_of_error hcall]
      rfl
    | ok screen =>
      have hkept : session.succeeding (step :: steps) =
          step :: (session.call step).2.succeeding steps := by
        rw [succeeding, calls_cons, hcall]
        rfl
      rw [hkept, calls_cons, calls_cons, ih, hcall]
      rfl

/--
Calls that fail leave no trace: without them, the other calls give the same and the session is the
same after them. A call fails exactly if it leads nowhere: there is no section to start from, none
with the id, or no such choice or none with its target.
-/
theorem failed_calls_leave_no_trace (session : Session) (steps : List Step) :
    session.calls (session.succeeding steps) =
        ((session.calls steps).1.filter Except.isOk, (session.calls steps).2) ∧
      ∀ (session : Session) (step : Step) (fault : Fault),
        (session.call step).1 = .error fault ↔ step.Fails session fault := by
  refine ⟨calls_succeeding, fun session step fault => ?_⟩
  rw [call_eq_error_iff, apply_eq_error_iff]

end Session

end Gamebook
