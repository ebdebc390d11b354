import Gamebook.Proofs.Diceless
import Gamebook.Proofs.Plays

/-!
# Plays without chance

Where a story rolls no dice and none come from the state, entering a section leaves the generator
as it was, and exchanging the generator changes nothing else. Both are one law: a step commutes with
`Session.withGenerator`. The law needs that no leaf of the state has an opening square bracket, and
every step keeps that. Main definitions: `Session.withGenerator`, `Session.answers`. Main
statements: `Session.Calm.apply_withGenerator`, `Session.answers_without_chance`.
-/

namespace Gamebook

/-- Equal leaves that no dice come from. -/
def Scalar.Same (x y : Scalar) : Prop :=
  x = y ∧ Diceless x.display

lemma Scalar.calm_same : Calm Same where
  display_eq h := congrArg display h.1
  diceless h := h.2
  refl h := ⟨rfl, h⟩

/-- Whether no leaf has an opening square bracket; keys may have one. -/
def Tree.LeavesDiceless (tree : Tree) : Prop :=
  ∀ e ∈ tree.leaves, Gamebook.Diceless e.2.display

instance (tree : Tree) : Decidable tree.LeavesDiceless :=
  inferInstanceAs (Decidable (∀ e ∈ tree.leaves, _))

/-- A tree without brackets in its leaves has the same leaves as itself. -/
lemma Tree.LeavesDiceless.same {tree : Tree} (h : tree.LeavesDiceless) :
    tree.Related Scalar.Same tree := by
  induction tree with
  | nil => exact .nil
  | leaf key x rest ih =>
    obtain ⟨hx, hrest⟩ := List.forall_mem_cons.1 h
    exact .leaf ⟨rfl, hx⟩ (ih hrest)
  | table key sub rest ihs ih =>
    obtain ⟨hsub, hrest⟩ := List.forall_mem_append.1 h
    refine .table (ihs fun e he => ?_) (ih hrest)
    exact hsub (key :: e.1, e.2) (List.mem_map.2 ⟨e, he, rfl⟩)

/-- Whether no dice come from the leaves of a state. -/
abbrev State.Still (state : State) : Prop :=
  state.tree.Related Scalar.Same state.tree

/-- Trees of the same shape with the same leaves are equal. -/
lemma Tree.Related.eq_of_same {a b : Tree} (h : a.Related Scalar.Same b) : a = b := by
  induction h with
  | nil => rfl
  | leaf hxy _ ih => rw [hxy.1, ih]
  | table _ _ ihs ih => rw [ihs, ih]

lemma Screen.Related.eq_of_same {screen other : Screen} (h : screen.Related Scalar.Same other) :
    screen = other := by
  cases screen
  cases other
  obtain ⟨rfl, rfl, rfl, hstate⟩ := h
  cases State.ext hstate.eq_of_same
  rfl

/-- Sections without dice make the same screen with any generator, which is left as it is. -/
lemma Story.resolveNext_same {story : Story} (hs : story.mayRoll = false) {config : Config} {id}
    {state : State} (h : state.Still) {g g' : Generator} :
    story.resolveNext config id state g' = ((story.resolveNext config id state g).1, g') := by
  obtain ⟨same, spared⟩ := @follow_calm _ Scalar.calm_same story hs config.revisits config.maxDepth
    [] id state state g' g h
  exact Prod.ext same.eq_of_same spared

namespace Session

/-- The session with another generator. -/
def withGenerator (session : Session) (g : Generator) : Session :=
  { session with generator := g }

/-- What a session tells its player: everything but the generator. -/
structure Answer where
  /-- The screen, with the state and the accounts of what was done. -/
  screen : Screen
  /-- The choices. -/
  choices : List Choice
  /-- Whether there is no way on. -/
  finished : Bool
  /-- Where the player entered last. -/
  bookmark : Option Bookmark

/-- What a session tells its player. -/
def answer (session : Session) : Answer :=
  ⟨session.screen, session.choices, session.finished, session.bookmark⟩

/-- The player is not told of the generator. -/
lemma answer_withGenerator {session : Session} {g : Generator} :
    (session.withGenerator g).answer = session.answer :=
  rfl

/-- What the player is told at each of some steps. -/
def answers (session : Session) : List Step → List (Except Fault Answer)
  | [] => []
  | step :: steps => (step.apply session).map answer :: (session.after step).answers steps

/-- What the player is told when a session is opened and at each of some steps. -/
def Opening.answers (story : Story) (config : Config) (g : Generator) (opening : Opening)
    (steps : List Step) : List (Except Fault Answer) :=
  match opening.session story config g with
  | .error fault => [.error fault]
  | .ok first => .ok first.answer :: first.answers steps

/-- Whether neither the story nor the state of a session gives dice, and none were rolled. -/
structure Calm (g : Generator) (session : Session) : Prop where
  /-- The story rolls no dice. -/
  story : session.story.mayRoll = false
  /-- No dice come from the state. -/
  state : session.screen.state.Still
  /-- The generator is the one from before. -/
  spared : session.generator = g

variable {session next : Session} {g g' : Generator} {id : String} {state : State}

/-- Entering a section is the same with another generator, which is left as it is. -/
lemma enter_withGenerator (hs : session.story.mayRoll = false) (h : state.Still) :
    (session.withGenerator g').enter id state =
      (session.enter id state).map (·.withGenerator g') := by
  cases hid : session.story.section? id with
  | none =>
    rw [enter_missing hid, @enter_missing (session.withGenerator g') id state hid]
    rfl
  | some s =>
    rw [enter_found hid, @enter_found (session.withGenerator g') id state s hid]
    have same := @Story.resolveNext_same session.story hs session.config id state h
      session.generator g'
    simp only [withGenerator, same, Except.map]

namespace Calm

/-- A session that enters a section with a state that no dice come from stays calm. -/
lemma enter (h : Calm g session) (hstate : state.Still)
    (e : session.enter id state = .ok next) : Calm g next := by
  obtain ⟨hs, -, rfl⟩ := h
  obtain ⟨-, rfl⟩ := enter_cases e
  obtain ⟨same, spared⟩ := @Story.follow_calm _ Scalar.calm_same session.story hs
    session.config.revisits session.config.maxDepth [] id state state session.generator
    session.generator hstate
  exact ⟨hs, same.state, spared⟩

lemma invariant : Invariant (Calm g) State.Still where
  empty := .nil
  screen h := h.state
  enter h hstate e := h.enter hstate e

/-- A step is the same with another generator, which is left as it is. -/
lemma apply_withGenerator (h : Calm g session) {step : Step} :
    step.apply (session.withGenerator g') = (step.apply session).map (·.withGenerator g') := by
  cases step with
  | start id =>
    rw [Step.apply, Step.apply, start, start]
    rw [show (session.withGenerator g').startId id = session.startId id from rfl]
    cases session.startId id with
    | error fault => rfl
    | ok id => exact enter_withGenerator h.story .nil
  | choose index =>
    rw [Step.apply, Step.apply, choose, choose]
    rw [show (session.withGenerator g').choices = session.choices from rfl]
    cases session.choices[index]? with
    | none => rfl
    | some choice => exact enter_withGenerator h.story h.state

lemma after_withGenerator (h : Calm g session) {step : Step} :
    (session.withGenerator g').after step = (session.after step).withGenerator g' := by
  rw [Session.after, Session.after, h.apply_withGenerator]
  cases step.apply session with
  | error fault => rfl
  | ok next => rfl

/-- The answers are the same with another generator. -/
lemma answers_withGenerator (h : Calm g session) {steps : List Step} :
    (session.withGenerator g').answers steps = session.answers steps := by
  induction steps generalizing session with
  | nil => rfl
  | cons step steps ih =>
    rw [answers, answers, h.after_withGenerator, ih (invariant.after h), h.apply_withGenerator]
    cases step.apply session with
    | error fault => rfl
    | ok next => rfl

end Calm

namespace Opening

variable {story : Story} {config : Config} {opening : Opening}

/-- A session opens in the same way with another generator. -/
lemma session_generator (hs : story.mayRoll = false) (ho : opening.state.tree.LeavesDiceless) :
    opening.session story config g' =
      (opening.session story config g).map (·.withGenerator g') := by
  cases opening with
  | anew => rfl
  | resumed b => exact @enter_withGenerator (fresh story config g) _ _ _ hs ho.same

/-- A session of a story without dice is calm when it is opened. -/
lemma calm_session (hs : story.mayRoll = false) (ho : opening.state.tree.LeavesDiceless)
    {first : Session} (e : opening.session story config g = .ok first) : Calm g first := by
  have calm : Calm g (fresh story config g) := ⟨hs, .nil, rfl⟩
  cases opening with
  | anew =>
    cases e
    exact calm
  | resumed b => exact calm.enter ho.same e

end Opening

/--
In a story without dice, two sessions that are opened with any generators, anew or from a bookmark
without brackets in its leaves, give the same answers at every step, failing ones included, and the
generator is never advanced.
-/
theorem answers_without_chance (story : Story) (config : Config) (g g' : Generator)
    (opening : Opening) (steps : List Step) (hs : story.mayRoll = false)
    (ho : opening.state.tree.LeavesDiceless) :
    opening.answers story config g steps = opening.answers story config g' steps ∧
      ∀ first, opening.session story config g = .ok first →
        (first.run steps).generator = g := by
  constructor
  · have opened := @Opening.session_generator g g' story config opening hs ho
    rw [Opening.answers, Opening.answers, opened]
    cases e : opening.session story config g with
    | error fault => simp only [Except.map]
    | ok first =>
      have calm := Opening.calm_session hs ho e
      simp only [Except.map]
      rw [answer_withGenerator, calm.answers_withGenerator]
  · intro first e
    exact (Calm.invariant.run (Opening.calm_session hs ho e)).spared

/-- A ferry that takes coins while there are some. -/
def ferry : Story where
  title := "Ferry"
  description := []
  settings := .setting (.insert .empty "fare" (.scalar (.number 2)))
  sections := [
    { id := "bank"
      heading := "Bank"
      parts := [
        .condition ⟨"{coins} > {fare}", none, none, none⟩
          [.action (.setting (.insert .empty "coins" (.scalar (.text "-={fare}"))))]
          [.paragraph "The ferryman shakes his head." none],
        .link ⟨"Cross", "#far", none⟩,
        .link ⟨"Wait", "#bank", none⟩] },
    { id := "far"
      heading := "Far bank"
      parts := [.paragraph "{coins} coins are left." none] }]
  images := []

/-- A traveller on the bank, with a bracket in a key only. -/
def onTheBank : Bookmark where
  sectionId := "bank"
  state :=
    .insert (.insert .empty "coins" (.scalar (.number 5))) "map[old]" (.scalar (.text "torn"))

/-- A traveller waits, makes a choice that is not there, and crosses, with two different seeds. -/
theorem answers_without_chance_ferry :
    let steps : List Step := [.choose 1, .choose 7, .choose 0, .start (some "nowhere")]
    ferry.mayRoll = false ∧ (Opening.resumed onTheBank).state.tree.LeavesDiceless ∧
      (Opening.resumed onTheBank).answers ferry {} (.ofSeed 1) steps =
        (Opening.resumed onTheBank).answers ferry {} (.ofSeed 2) steps ∧
      ∃ first, (Opening.resumed onTheBank).session ferry {} (.ofSeed 1) = .ok first ∧
        (first.run steps).generator = .ofSeed 1 := by
  intro steps
  have hs : ferry.mayRoll = false := by decide +kernel
  have ho : (Opening.resumed onTheBank).state.tree.LeavesDiceless := by decide +kernel
  obtain ⟨same, spared⟩ :=
    answers_without_chance ferry {} (.ofSeed 1) (.ofSeed 2) (.resumed onTheBank) steps hs ho
  obtain ⟨s, found⟩ := Option.isSome_iff_exists.1 (by decide : (ferry.section? "bank").isSome)
  obtain ⟨first, opened⟩ :
      ∃ first, (Opening.resumed onTheBank).session ferry {} (.ofSeed 1) = .ok first :=
    Opening.session_resumed found
  exact ⟨hs, ho, same, first, opened, spared first opened⟩

end Session

end Gamebook
