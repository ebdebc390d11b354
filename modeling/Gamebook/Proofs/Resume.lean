import Gamebook.Proofs.BookmarkText
import Gamebook.Proofs.Diceless
import Gamebook.Proofs.Plays

/-!
# Resuming from a bookmark

Whatever a player does, the screen is the one that the bookmark's section gives with the bookmark's
state: a step that enters a section sets both, and a step that fails changes neither. So a player
who comes back with the text of the bookmark sees the same screen, provided that no dice are rolled
on the way. Main definition: `Session.Marked`. Main statement: `Session.resume_bookmark`.
-/

namespace Gamebook.Session

/-- Whether the screen of a session is the one that its bookmark gives. -/
structure Marked (story : Story) (config : Config) (session : Session) : Prop where
  /-- The story is not changed. -/
  story_eq : session.story = story
  /-- The configuration is not changed. -/
  config_eq : session.config = config
  /-- No dice come from the state. -/
  steady : session.screen.state.tree.Steady session.screen.state.tree
  /-- The bookmark names a section and gives the screen, and no dice come from its state. -/
  screen_eq : ∀ b, session.bookmark = some b →
    (∃ s, story.section? b.sectionId = some s) ∧ b.state.tree.Steady b.state.tree ∧
      ∃ g, session.screen = (story.resolveNext config b.sectionId b.state g).1

variable {story : Story} {config : Config} {session next : Session}

/-- A session that has not entered any section is marked. -/
lemma marked_fresh {g} : Marked story config (fresh story config g) :=
  ⟨rfl, rfl, .nil, by rintro _ ⟨⟩⟩

/-- Entering a section with a state that no dice come from marks the session. -/
lemma Marked.enter (h : Marked story config session) (hs : story.Diceless) {id} {state : State}
    (hstate : state.tree.Steady state.tree) (e : session.enter id state = .ok next) :
    Marked story config next := by
  obtain ⟨rfl, rfl, -, -⟩ := h
  obtain ⟨found, rfl⟩ := enter_cases e
  refine ⟨rfl, rfl, (Story.follow_steady hs hstate).state, ?_⟩
  rintro b ⟨⟩
  exact ⟨found, hstate, _, rfl⟩

lemma invariant_marked (hs : story.Diceless) :
    Invariant (Marked story config) fun state => state.tree.Steady state.tree where
  empty := .nil
  screen h := h.steady
  enter h hstate e := h.enter hs hstate e

/-- A session is marked after any steps. -/
lemma Marked.run (h : Marked story config session) (hs : story.Diceless) {steps} :
    Marked story config (session.run steps) :=
  (invariant_marked hs).run h

/-- Alike states are steady if no dice come from one of them. -/
lemma steady_of_alike {a b : Tree} (h : a.Related Scalar.Alike b) (ha : a.Steady a) :
    a.Steady b := by
  induction h with
  | nil => exact .nil
  | leaf hxy _ ih =>
    cases ha with
    | leaf hx ha => exact .leaf ⟨hxy, hx.2⟩ (ih ha)
  | table _ _ ihs ih =>
    cases ha with
    | table hs ha => exact .table (ihs hs) (ih ha)

/--
A session of a story without dice can be resumed after any steps: the text of its bookmark is read
as a bookmark of the same section with an alike state, and a session that starts there, with any
generator, shows the same section, parts, narration and choices and has an alike state.
-/
theorem resume_bookmark (story : Story) (config : Config) (g : Generator) (steps : List Step)
    (b : Bookmark) (hs : story.Diceless)
    (hid : ∀ s ∈ story.sections, s.id ≠ "" ∧ '?' ∉ s.id.toList)
    (hb : ((fresh story config g).run steps).bookmark = some b)
    (hn : b.state.tree.ReadsBack) (hh : b.state.toJson.height ≤ Json.maxDepth) :
    ∃ b', Bookmark.read b.text = .ok b' ∧ b'.sectionId = b.sectionId ∧ b.state.Alike b'.state ∧
      ∀ g', ∃ resumed, ofBookmark story config g' b' = .ok resumed ∧
        ((fresh story config g).run steps).screen.Related Scalar.Alike resumed.screen ∧
          resumed.choices = ((fresh story config g).run steps).choices := by
  obtain ⟨⟨s, hfound⟩, hstate, drawn, hscreen⟩ := (marked_fresh.run hs).screen_eq b hb
  have hs' := hid s (List.mem_of_find?_eq_some hfound)
  rw [show s.id = b.sectionId from by simpa using List.find?_some hfound] at hs'
  obtain ⟨state', hread, halike⟩ := Bookmark.read_text hs' hn hh
  refine ⟨⟨b.sectionId, state'⟩, hread, rfl, halike, fun g' => ?_⟩
  -- the generators of the two sessions differ, and so may the signs of zeros in their states
  have same := @Story.follow_steady story hs config.revisits config.maxDepth [] b.sectionId
    b.state state' drawn g' (steady_of_alike halike hstate)
  refine ⟨_, enter_found hfound, ?_, ?_⟩
  · rw [hscreen]
    exact same.imp fun h => h.1
  · rw [choices, choices, Screen.choices, Screen.choices, hscreen]
    exact congrArg choicesOf same.parts.symm

/-- A hall with coins and a cave behind it. -/
def hallAndCave : Story where
  title := "Hall and cave"
  description := []
  settings := .setting (.insert .empty "luck" (.scalar (.number 1)))
  sections := [
    { id := "hall"
      heading := "Hall"
      parts := [
        .action (.setting (.insert .empty "coins" (.scalar (.text "+={luck} + 1")))),
        .link ⟨"Enter the cave", "#cave", none⟩,
        .link ⟨"Stay", "#hall", none⟩] },
    { id := "cave"
      heading := "Cave"
      parts := [
        .condition ⟨"{coins} > 1", none, none, none⟩ [.paragraph "{coins} coins clink." none] [],
        .link ⟨"Go back", "#hall", none⟩,
        .link ⟨"Wait", "#cave", none⟩] }]
  images := []

/-- A walk into the cave, with two choices that the screen does not have. -/
def intoTheCave : List Step :=
  [.choose 0, .start none, .choose 7, .choose 0]

/-- The bookmark in the cave. -/
def inTheCave : Bookmark where
  sectionId := "cave"
  state := .insert .empty "coins" (.scalar (.number 2))

/-- A player comes back into the cave with the coins from the hall. -/
theorem resume_inTheCave :
    let session := (fresh hallAndCave {} (.ofSeed 7)).run intoTheCave
    session.bookmark = some inTheCave ∧
      ∃ b', Bookmark.read inTheCave.text = .ok b' ∧ b'.sectionId = "cave" ∧
        inTheCave.state.Alike b'.state ∧
          ∀ g', ∃ resumed, ofBookmark hallAndCave {} g' b' = .ok resumed ∧
            session.screen.Related Scalar.Alike resumed.screen ∧
              resumed.choices = session.choices := by
  intro session
  have hb : session.bookmark = some inTheCave := by decide +kernel
  have hs : hallAndCave.Diceless := by
    refine ⟨by decide, ?_⟩
    simp [hallAndCave, Part.DicelessAll, Part.Diceless]
    decide +kernel
  have hn : inTheCave.state.tree.ReadsBack := by
    rintro path x h
    obtain ⟨rfl, rfl⟩ : path = ["coins"] ∧ x = 2 := by
      simpa [inTheCave, State.insert, State.Entry.value, State.empty, Tree.insert, Tree.cons,
        Tree.leaves] using h
    exact ⟨.int 2, by decide +kernel, by decide +kernel⟩
  exact ⟨hb, resume_bookmark hallAndCave {} (.ofSeed 7) intoTheCave inTheCave hs (by decide) hb hn
    (by decide +kernel)⟩

end Gamebook.Session
