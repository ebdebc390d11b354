import Gamebook.Play.Screen
import Mathlib.Tactic.Lemma

/-!
# Chains of sections

A screen is made by a recursion that reads a section, follows its only way on and merges what comes
after it on the way back. Here the same screen is made by a walk: a loop that goes forward from one
section to the next, keeps what it reads and stops for one of four reasons. The walk has a reading
of parts of its own: `Walk.aims` are the names that their links and navigations lead to, and
`Walk.rest` are the other parts. Main definitions: `Walk.step`, `Story.walk` and
`Story.followLogged`, the recursion with a log of the sections that it reads. Main statements:
`Walk.onlyTarget?_eq_some_iff` and `Story.resolveNext_eq_walk`; a story with a walk of three
sections is `Story.mountainPath`.
-/

namespace Gamebook

/-- What a section is read with. -/
structure Arrival where
  /-- The section. -/
  place : Section
  /-- The state on arrival. -/
  state : State
  /-- The generator on arrival. -/
  generator : Generator

/-- A section that is read on a walk. -/
structure Visit where
  /-- What the section is read with. -/
  arrival : Arrival
  /-- What reading it gives. -/
  passage : Passage
  /-- Whether its only way on is taken. -/
  left : Bool

namespace Walk

/-- The name that a target is for: the target, or what comes after a `#` at its start. -/
def aim (target : String) : String :=
  if target.toList.head? = some '#' then .ofList target.toList.tail else target

/-- The names that the links and navigations among some parts are for, in order. -/
def aims : List Part → List String
  | [] => []
  | .link l :: parts => aim l.target :: aims parts
  | .navigation _ target :: parts => aim target :: aims parts
  | _ :: parts => aims parts

/-- The parts that are no links and no navigations, in order. -/
def rest : List Part → List Part
  | [] => []
  | .link _ :: parts => rest parts
  | .navigation _ _ :: parts => rest parts
  | part :: parts => part :: rest parts

end Walk

/-- The parts that a visit shows: the way on is left out if it is taken. -/
def Visit.shown (v : Visit) : List Part :=
  if v.left then Walk.rest v.passage.parts else v.passage.parts

/-- A walk along a chain. -/
structure Walk where
  /-- The sections read so far, in order. -/
  visits : List Visit
  /-- The name of the section to go to; none if the walk is over. -/
  next : Option String
  /-- The state that is left. -/
  state : State
  /-- The generator that is left. -/
  generator : Generator

namespace Walk

/-- The walk that has read nothing yet. -/
def start (id : String) (state : State) (g : Generator) : Walk :=
  ⟨[], some id, state, g⟩

/-- The names of the sections read so far. -/
def seen (w : Walk) : List String :=
  w.visits.map (·.arrival.place.id)

/-- The way on from some parts, if it is the only one and is not refused. -/
def wayOn? (revisits : Revisits) (seen : List String) (parts : List Part) : Option String :=
  match aims parts with
  | [target] => if revisits = .rejected ∧ target ∈ seen then none else some target
  | _ => none

lemma aim_eq_targetName {target} : aim target = Part.targetName target := by
  rw [aim, Part.targetName]
  cases target.toList with
  | nil => rfl
  | cons c name =>
    by_cases h : c = '#'
    · subst h
      rfl
    · rw [if_neg (by simpa using h)]
      split
      · next e => exact absurd (List.cons.inj e).1 h
      · rfl

/-- The aims are the targets of the ways on. -/
lemma map_some_aims {parts} :
    (aims parts).map some = (parts.filter Part.isLink).map Part.linkTarget? := by
  induction parts with
  | nil => rfl
  | cons part parts ih =>
    cases part with
    | link l =>
      rw [aims, List.map_cons, aim_eq_targetName, ih]
      rfl
    | navigation text target =>
      rw [aims, List.map_cons, aim_eq_targetName, ih]
      rfl
    | _ => exact ih

/-- The target of the only way on is the only aim. -/
lemma onlyTarget?_eq_some_iff {parts target} :
    onlyTarget? parts = some target ↔ aims parts = [target] := by
  have targets : aims parts = [target] ↔ (aims parts).map some = [some target] := by
    simp [List.map_eq_singleton_iff]
  rw [targets, map_some_aims, onlyTarget?]
  generalize parts.filter Part.isLink = ways
  cases ways with
  | nil => simp
  | cons part more =>
    cases more with
    | nil => simp
    | cons => simp

lemma withoutLinks_eq_rest {parts} : withoutLinks parts = rest parts := by
  induction parts with
  | nil => rfl
  | cons part parts ih =>
    cases part with
    | link l => exact ih
    | navigation text target => exact ih
    | _ => exact congrArg (_ :: ·) ih

lemma wayOn?_eq_some_iff {revisits seen parts target} :
    wayOn? revisits seen parts = some target ↔
      onlyTarget? parts = some target ∧ ¬ (revisits = .rejected ∧ target ∈ seen) := by
  rw [onlyTarget?_eq_some_iff, wayOn?]
  split
  · next way one =>
    by_cases h : revisits = .rejected ∧ way ∈ seen
    · simp only [if_pos h, reduceCtorEq, one, List.cons.injEq, and_true, false_iff]
      rintro ⟨rfl, hn⟩
      exact hn h
    · simp only [if_neg h, Option.some.injEq, one, List.cons.injEq, and_true, iff_self_and]
      rintro rfl
      exact h
  · next several =>
    simp only [reduceCtorEq, false_iff, not_and]
    exact fun one => absurd one (several target)

lemma wayOn?_eq_none_iff {revisits seen parts} :
    wayOn? revisits seen parts = none ↔
      ∀ target, onlyTarget? parts = some target → revisits = .rejected ∧ target ∈ seen := by
  rw [Option.eq_none_iff_forall_ne_some]
  apply forall_congr'
  intro target
  rw [ne_eq, wayOn?_eq_some_iff]
  exact Decidable.not_and_not_right

/-- It counts which sections are seen, not in which order. -/
lemma wayOn?_congr {revisits seen seen' parts} (h : ∀ target, target ∈ seen ↔ target ∈ seen') :
    wayOn? revisits seen parts = wayOn? revisits seen' parts := by
  simp only [wayOn?, h]

/-- Reads one more section, if there is one to go to. -/
def step (story : Story) (revisits : Revisits) (w : Walk) : Walk :=
  match w.next with
  | none => w
  | some id =>
    match story.section? id with
    | none => { w with next := none }
    | some s =>
      let (passage, g) := s.resolve w.state story.settings.state w.generator
      let next := wayOn? revisits (w.seen ++ [s.id]) passage.parts
      let visit := ⟨⟨s, w.state, w.generator⟩, passage, next.isSome⟩
      ⟨w.visits ++ [visit], next, passage.state, g⟩

/-- Takes a number of steps. -/
def run (story : Story) (revisits : Revisits) : Nat → Walk → Walk
  | 0, w => w
  | n + 1, w => run story revisits n (w.step story revisits)

/-- The screen that visits make up. -/
def screenOf (visits : List Visit) (state : State) : Screen where
  origin := visits.head?.map (·.arrival.place)
  parts := visits.flatMap Visit.shown
  state := state
  narration := narration (visits.flatMap Visit.shown)

/-- The screen of a walk. -/
def screen (w : Walk) : Screen :=
  screenOf w.visits w.state

end Walk

namespace Story

/-- The walk from a section over at most `depth` sections. -/
def walk (story : Story) (revisits : Revisits) (depth : Nat) (id : String) (state : State)
    (g : Generator) : Walk :=
  (Walk.start id state g).run story revisits depth

/-- The recursion behind screens, with a log of the sections that it reads. -/
def followLogged (story : Story) (revisits : Revisits) :
    (depth : Nat) → (visited : List String) → (id : String) → State → Generator →
      (Screen × Generator) × List Arrival
  | 0, _, _, state, g => ((.blank state, g), [])
  | depth + 1, visited, id, state, g =>
    match story.section? id with
    | none => ((.blank state, g), [])
    | some s =>
      let log := ⟨s, state, g⟩
      let (passage, g) := s.resolve state story.settings.state g
      match onlyTarget? passage.parts with
      | none => ((.ofPassage s passage, g), [log])
      | some target =>
        if revisits = .rejected ∧ target ∈ s.id :: visited then ((.ofPassage s passage, g), [log])
        else
          let ((next, g), more) :=
            story.followLogged revisits depth (s.id :: visited) target passage.state g
          let parts := withoutLinks passage.parts ++ next.parts
          ((⟨some s, parts, next.state, narration parts⟩, g), log :: more)

/-- The log changes nothing. -/
lemma followLogged_fst {story revisits depth visited id state g} :
    (followLogged story revisits depth visited id state g).1 =
      follow story revisits depth visited id state g := by
  induction depth generalizing visited id state g with
  | zero => rfl
  | succ depth ih =>
    cases hs : story.section? id with
    | none => simp only [followLogged, follow, hs]
    | some s =>
      simp only [followLogged, follow, hs]
      cases onlyTarget? (s.resolve state story.settings.state g).1.parts with
      | none => rfl
      | some target =>
        by_cases h : revisits = .rejected ∧ target ∈ s.id :: visited
        · simp only [h, and_self, if_true]
        · simp only [h, if_false]
          rw [← ih]

variable {story : Story} {revisits : Revisits} {depth : Nat} {visited : List String} {id : String}
  {state : State} {g g' : Generator} {s : Section} {passage : Passage}

/-- The recursion ends at a section that has no only way on, or whose way on is refused. -/
lemma followLogged_stay (hs : story.section? id = some s)
    (hread : s.resolve state story.settings.state g = (passage, g'))
    (hw : Walk.wayOn? revisits (s.id :: visited) passage.parts = none) :
    story.followLogged revisits (depth + 1) visited id state g =
      ((.ofPassage s passage, g'), [⟨s, state, g⟩]) := by
  simp only [followLogged, hs, hread]
  cases ht : onlyTarget? passage.parts with
  | none => rfl
  | some target => simp only [if_pos (Walk.wayOn?_eq_none_iff.1 hw target ht)]

/-- The recursion goes on by the only way. -/
lemma followLogged_leave {target} (hs : story.section? id = some s)
    (hread : s.resolve state story.settings.state g = (passage, g'))
    (hw : Walk.wayOn? revisits (s.id :: visited) passage.parts = some target) :
    story.followLogged revisits (depth + 1) visited id state g =
      let ((next, g''), more) :=
        story.followLogged revisits depth (s.id :: visited) target passage.state g'
      let parts := withoutLinks passage.parts ++ next.parts
      ((⟨some s, parts, next.state, narration parts⟩, g''), ⟨s, state, g⟩ :: more) := by
  obtain ⟨ht, free⟩ := Walk.wayOn?_eq_some_iff.1 hw
  simp only [followLogged, hs, hread, ht, if_neg free]

end Story

namespace Walk

variable {story : Story} {revisits : Revisits}

/-- A walk that is over stays as it is. -/
lemma run_over {n} {w : Walk} (h : w.next = none) : run story revisits n w = w := by
  induction n with
  | zero => rfl
  | succ n ih =>
    rw [run, show w.step story revisits = w from by simp only [step, h]]
    exact ih

/-- A step to a section that does not exist ends the walk. -/
lemma step_missing {w : Walk} {id} (h : w.next = some id) (hs : story.section? id = none) :
    w.step story revisits = { w with next := none } := by
  simp only [step, h, hs]

/-- A step to a section reads it. -/
lemma step_found {w : Walk} {id s} (h : w.next = some id) (hs : story.section? id = some s) :
    w.step story revisits =
      let read := s.resolve w.state story.settings.state w.generator
      let next := wayOn? revisits (w.seen ++ [s.id]) read.1.parts
      ⟨w.visits ++ [⟨⟨s, w.state, w.generator⟩, read.1, next.isSome⟩], next, read.1.state,
        read.2⟩ := by
  simp only [step, h, hs]

/-- The screen of one visit that is not left is the screen of its passage. -/
lemma screenOf_stay {s : Section} {state : State} {g g' : Generator} {passage : Passage}
    (hread : s.resolve state story.settings.state g = (passage, g')) :
    screenOf [⟨⟨s, state, g⟩, passage, false⟩] passage.state = .ofPassage s passage := by
  cases hread
  simp [screenOf, Visit.shown, Screen.ofPassage]

/-- The screen of a visit that is left, with the visits after it. -/
lemma screenOf_leave {a passage visits state} :
    screenOf (⟨a, passage, true⟩ :: visits) state =
      let parts := withoutLinks passage.parts ++ (screenOf visits state).parts
      ⟨some a.place, parts, state, narration parts⟩ := by
  simp [screenOf, Visit.shown, withoutLinks_eq_rest]

/--
The recursion and the walk agree from any point on: the walk adds visits whose arrivals are the log,
whose number is bounded by the depth, of which all but the last are left, and which make up the
screen.
-/
lemma follow_run {depth visited id} {w : Walk} (h : w.next = some id)
    (hv : ∀ target, target ∈ visited ↔ target ∈ w.seen) :
    ∃ visits, (run story revisits depth w).visits = w.visits ++ visits ∧
      visits.length ≤ depth ∧ (∀ v ∈ visits.dropLast, v.left = true) ∧
      story.followLogged revisits depth visited id w.state w.generator =
        ((screenOf visits (run story revisits depth w).state,
          (run story revisits depth w).generator), visits.map Visit.arrival) := by
  -- the walk has seen what the recursion has visited, and the induction keeps this so
  induction depth generalizing visited id w with
  | zero => exact ⟨[], by simp [run], Nat.le_refl 0, by simp, rfl⟩
  | succ depth ih =>
    rw [run]
    cases hs : story.section? id with
    | none =>
      rw [step_missing h hs, run_over rfl]
      refine ⟨[], by simp, Nat.zero_le _, by simp, ?_⟩
      simp only [Story.followLogged, hs]
      rfl
    | some s =>
      obtain ⟨passage, g', hread⟩ :
          ∃ passage g', s.resolve w.state story.settings.state w.generator = (passage, g') :=
        ⟨_, _, rfl⟩
      have seen : ∀ target, target ∈ s.id :: visited ↔ target ∈ w.seen ++ [s.id] := by
        intro target
        simp [hv, or_comm]
      have hway : wayOn? revisits (s.id :: visited) passage.parts =
          wayOn? revisits (w.seen ++ [s.id]) passage.parts := wayOn?_congr seen
      rw [step_found h hs]
      simp only [hread]
      cases hw : wayOn? revisits (w.seen ++ [s.id]) passage.parts with
      | none =>
        rw [run_over rfl]
        refine ⟨_, rfl, by simp, by simp, ?_⟩
        rw [Story.followLogged_stay hs hread (hway.trans hw), Option.isSome_none,
          screenOf_stay hread]
        rfl
      | some target =>
        obtain ⟨visits, hvisits, hlen, hleft, hlog⟩ :=
          @ih (s.id :: visited) target
            ⟨w.visits ++ [⟨⟨s, w.state, w.generator⟩, passage, true⟩], some target, passage.state,
              g'⟩ rfl (by intro t; rw [seen]; simp [Walk.seen])
        refine ⟨⟨⟨s, w.state, w.generator⟩, passage, true⟩ :: visits, ?_, ?_, ?_, ?_⟩
        · rw [Option.isSome_some, hvisits, List.append_assoc]
          rfl
        · rw [List.length_cons]
          omega
        · intro v hv
          cases visits with
          | nil => simp at hv
          | cons v' visits =>
            rw [List.dropLast_cons_cons, List.mem_cons] at hv
            obtain rfl | hv := hv
            · rfl
            · exact hleft v hv
        · rw [Story.followLogged_leave hs hread (hway.trans hw), hlog, Option.isSome_some,
            screenOf_leave]
          rfl

end Walk

/--
A screen is the screen of the walk. The walk reads at most as many sections as the depth allows,
these are the sections that the recursion reads, in the same order and with the same states and
generators, and all but the last of them are left by their only way on.
-/
theorem Story.resolveNext_eq_walk (story : Story) (config : Config) (id : String) (state : State)
    (g : Generator) :
    let w := story.walk config.revisits config.maxDepth id state g
    let logged := story.followLogged config.revisits config.maxDepth [] id state g
    story.resolveNext config id state g = (w.screen, w.generator) ∧
      logged.1 = story.resolveNext config id state g ∧
      logged.2 = w.visits.map Visit.arrival ∧
      w.visits.length ≤ config.maxDepth ∧ ∀ v ∈ w.visits.dropLast, v.left = true := by
  intro w logged
  obtain ⟨visits, hvisits, hlen, hleft, hlog⟩ :=
    @Walk.follow_run story config.revisits config.maxDepth [] id (.start id state g) rfl
      (by simp [Walk.start, Walk.seen])
  have hw : w.visits = visits := hvisits.trans (List.nil_append visits)
  have hfst : logged.1 = story.resolveNext config id state g := followLogged_fst
  have hscreen : logged = ((w.screen, w.generator), w.visits.map Visit.arrival) := by
    rw [Walk.screen, hw]
    exact hlog
  refine ⟨?_, hfst, ?_, ?_, ?_⟩
  · rw [← hfst, hscreen]
  · rw [hscreen]
  · rw [hw]
    exact hlen
  · rw [hw]
    exact hleft

/-- A path from the foot of a mountain over a ridge to the summit, where there are two ways on. -/
def Story.mountainPath : Story where
  title := "Mountain path"
  description := []
  settings := .setting .empty
  sections := [
    { id := "foot"
      heading := "Foot"
      parts := [.paragraph "You set out." none, .link ⟨"Up", "#ridge", none⟩,
        .action (.setting (.insert .empty "mood" (.scalar (.text "brave"))))] },
    { id := "ridge"
      heading := "Ridge"
      parts := [.navigation "On" "summit", .paragraph "It is windy." none] },
    { id := "summit"
      heading := "Summit"
      parts := [.paragraph "You see far." none, .link ⟨"Down", "#foot", none⟩,
        .navigation "Rest" "#hut"] }]
  images := []

/--
A link leads to the ridge and a navigation to the summit, where the walk stops. A walk over two
sections stops before the summit, and the way there is not shown.
-/
theorem Story.resolveNext_mountainPath :
    let g := Generator.ofSeed 1
    let w := mountainPath.walk .rejected 10 "foot" .empty g
    let w' := mountainPath.walk .rejected 2 "foot" .empty g
    (mountainPath.resolveNext ⟨10, .rejected⟩ "foot" .empty g = (w.screen, w.generator) ∧
      w.visits.map (fun v => (v.arrival.place.id, v.left)) =
        [("foot", true), ("ridge", true), ("summit", false)] ∧
      w.screen.narration = "You set out. It is windy. You see far." ∧
      w.screen.choices = [⟨"Down", "foot"⟩, ⟨"Rest", "hut"⟩] ∧ w.screen.state.keys = ["mood"]) ∧
    mountainPath.resolveNext ⟨2, .rejected⟩ "foot" .empty g = (w'.screen, w'.generator) ∧
      w'.visits.map (fun v => (v.arrival.place.id, v.left)) = [("foot", true), ("ridge", true)] ∧
      w'.screen.choices = [] := by
  intro g w w'
  have all := (resolveNext_eq_walk mountainPath ⟨10, .rejected⟩ "foot" .empty g).1
  have two := (resolveNext_eq_walk mountainPath ⟨2, .rejected⟩ "foot" .empty g).1
  exact ⟨⟨all, by decide +kernel, by decide +kernel, by decide +kernel, by decide +kernel⟩, two,
    by decide +kernel, by decide +kernel⟩

end Gamebook
