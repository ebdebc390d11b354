import Gamebook.Play.Session
import Mathlib.Tactic.Lemma

/-!
# Plays

A play opens a session and takes steps, some of which may fail. A step that succeeds enters a
section with the empty state or with the state on the screen, so what entering a section keeps holds
after any steps. Main definitions: `Session.Opening`, `Session.Step`, `Session.run`,
`Session.Invariant`. Main statements: `Session.enter_cases`, `Session.Step.apply_cases`,
`Session.Invariant.run`.
-/

namespace Gamebook.Session

/-- What a player does. -/
inductive Step where
  /-- Starting from a section, or from the first one. -/
  | start (id : Option String)
  /-- Following a choice. -/
  | choose (index : Nat)

/-- A step of a session. -/
def Step.apply (session : Session) : Step → Except Fault Session
  | start id => session.start id
  | choose index => session.choose index

/-- The session after a step, which stays as it is if the step fails. -/
def after (session : Session) (step : Step) : Session :=
  match step.apply session with
  | .ok next => next
  | .error _ => session

/-- The session after steps, some of which may fail. -/
def run (session : Session) (steps : List Step) : Session :=
  steps.foldl after session

/-- How a session is opened. -/
inductive Opening where
  /-- Without entering a section. -/
  | anew
  /-- From a bookmark. -/
  | resumed (b : Bookmark)

/-- The session that is opened. -/
def Opening.session (story : Story) (config : Config) (g : Generator) :
    Opening → Except Fault Session
  | anew => .ok (fresh story config g)
  | resumed b => ofBookmark story config g b

/-- The state that a session is opened with. -/
def Opening.state : Opening → State
  | anew => .empty
  | resumed b => b.state

variable {session next : Session} {id : String} {state : State}

/-- Entering a section that exists succeeds. -/
lemma enter_found {s} (h : session.story.section? id = some s) :
    session.enter id state =
      let result := session.story.resolveNext session.config id state session.generator
      .ok ⟨session.story, session.config, result.2, some ⟨id, state⟩, result.1⟩ := by
  rw [enter, h]

/-- A bookmark of a section that exists opens a session. -/
lemma Opening.session_resumed {story : Story} {config : Config} {g : Generator} {b : Bookmark} {s}
    (h : story.section? b.sectionId = some s) :
    ∃ first, (resumed b).session story config g = .ok first :=
  ⟨_, enter_found h⟩

lemma enter_missing (h : session.story.section? id = none) :
    session.enter id state = .error (.sectionNotFound id) := by
  rw [enter, h]

/-- Where a section is entered, it exists and makes the screen. -/
lemma enter_cases (h : session.enter id state = .ok next) :
    (∃ s, session.story.section? id = some s) ∧
      let result := session.story.resolveNext session.config id state session.generator
      next = ⟨session.story, session.config, result.2, some ⟨id, state⟩, result.1⟩ := by
  cases hs : session.story.section? id with
  | none =>
    rw [enter_missing hs] at h
    cases h
  | some s =>
    rw [enter_found hs] at h
    cases h
    exact ⟨⟨s, rfl⟩, rfl⟩

/-- A choice that is followed is on the screen, and its section is entered with the state there. -/
lemma choose_cases {index} (h : session.choose index = .ok next) :
    ∃ choice, session.choices[index]? = some choice ∧
      session.enter choice.target session.screen.state = .ok next := by
  rw [choose] at h
  cases hc : session.choices[index]? with
  | none =>
    rw [hc] at h
    cases h
  | some choice =>
    rw [hc] at h
    exact ⟨choice, rfl, h⟩

lemma start_cases {id} (h : session.start id = .ok next) :
    ∃ id, session.enter id .empty = .ok next := by
  rw [start] at h
  cases hid : session.startId id with
  | error fault =>
    rw [hid] at h
    cases h
  | ok id =>
    rw [hid] at h
    exact ⟨id, h⟩

/-- A step that succeeds enters a section, with the empty state or with the state on the screen. -/
lemma Step.apply_cases {step : Step} (h : step.apply session = .ok next) :
    ∃ id state, (state = .empty ∨ state = session.screen.state) ∧
      session.enter id state = .ok next := by
  cases step with
  | start id =>
    obtain ⟨id, h⟩ := start_cases h
    exact ⟨id, _, .inl rfl, h⟩
  | choose index =>
    obtain ⟨choice, -, h⟩ := choose_cases h
    exact ⟨choice.target, _, .inr rfl, h⟩

/--
A property of sessions that is kept when a section is entered, provided that the state it is entered
with has a property that the empty state and the states on screens have.
-/
structure Invariant (p : Session → Prop) (q : State → Prop) : Prop where
  /-- The empty state has the property. -/
  empty : q .empty
  /-- The state on the screen has the property. -/
  screen {session : Session} : p session → q session.screen.state
  /-- Entering a section keeps the property of the session. -/
  enter {session next : Session} {id : String} {state : State} :
    p session → q state → session.enter id state = .ok next → p next

namespace Invariant

variable {p : Session → Prop} {q : State → Prop}

lemma step (hp : Invariant p q) (h : p session) {step : Step}
    (e : step.apply session = .ok next) : p next := by
  obtain ⟨id, state, hstate, e⟩ := Step.apply_cases e
  cases hstate with
  | inl hempty =>
    subst hempty
    exact hp.enter h hp.empty e
  | inr hscreen =>
    subst hscreen
    exact hp.enter h (hp.screen h) e

/-- A step that fails keeps everything, so every step keeps an invariant. -/
lemma after (hp : Invariant p q) (h : p session) {step : Step} : p (session.after step) := by
  rw [Session.after]
  cases e : step.apply session with
  | error fault => exact h
  | ok next => exact hp.step h e

lemma run (hp : Invariant p q) (h : p session) {steps : List Step} : p (session.run steps) := by
  induction steps generalizing session with
  | nil => exact h
  | cons step steps ih => exact ih (hp.after h)

end Invariant

end Gamebook.Session
