import Gamebook.Proofs.Chain

/-!
# Trails

The recursion behind screens as a relation: a trail says how a screen comes about, with one rule for
each way in which the recursion ends or goes on. What holds of every screen is shown by induction on
its trail. Main definition: `Story.Trail`. Main statements: `Story.exists_trail` and
`Trail.followLogged_eq`, so that a trail exists and is the only one; `Story.trail_resolveNext`.
-/

namespace Gamebook

/-- The screen of a section that is left for the section of another screen. -/
def Screen.leaving (s : Section) (passage : Passage) (next : Screen) : Screen where
  origin := some s
  parts := withoutLinks passage.parts ++ next.parts
  state := next.state
  narration := Gamebook.narration (withoutLinks passage.parts ++ next.parts)

/-- How a screen comes about, with the generator that is left and a log of the sections read. -/
inductive Story.Trail (story : Story) (revisits : Revisits) :
    (depth : Nat) → (visited : List String) → (id : String) → State → Generator →
      Screen → Generator → List Arrival → Prop where
  /-- No more sections may be shown. -/
  | spent {visited id state g} :
    Trail story revisits 0 visited id state g (.blank state) g []
  /-- There is no such section. -/
  | missing {depth visited id state g} :
    story.section? id = none →
    Trail story revisits (depth + 1) visited id state g (.blank state) g []
  /-- The section has no only way on, or the way is refused. -/
  | stay {depth visited id state g s passage g'} :
    story.section? id = some s →
    s.resolve state story.settings.state g = (passage, g') →
    Walk.wayOn? revisits (s.id :: visited) passage.parts = none →
    Trail story revisits (depth + 1) visited id state g (.ofPassage s passage) g' [⟨s, state, g⟩]
  /-- The only way on is taken. -/
  | leave {depth visited id state g s passage g' target next g'' log} :
    story.section? id = some s →
    s.resolve state story.settings.state g = (passage, g') →
    Walk.wayOn? revisits (s.id :: visited) passage.parts = some target →
    Trail story revisits depth (s.id :: visited) target passage.state g' next g'' log →
    Trail story revisits (depth + 1) visited id state g (.leaving s passage next) g''
      (⟨s, state, g⟩ :: log)

namespace Story

variable {story : Story} {revisits : Revisits}

/-- The section that a name finds has the name. -/
lemma id_of_section? {id s} (h : story.section? id = some s) : s.id = id := by
  have found := List.find?_some h
  exact of_decide_eq_true found

/-- Every screen comes about somehow. -/
lemma exists_trail {depth visited id state g} :
    ∃ screen g' log, story.Trail revisits depth visited id state g screen g' log := by
  induction depth generalizing visited id state g with
  | zero => exact ⟨_, _, _, .spent⟩
  | succ depth ih =>
    cases hs : story.section? id with
    | none => exact ⟨_, _, _, .missing hs⟩
    | some s =>
      obtain ⟨passage, g', hread⟩ :
          ∃ passage g', s.resolve state story.settings.state g = (passage, g') := ⟨_, _, rfl⟩
      cases hw : Walk.wayOn? revisits (s.id :: visited) passage.parts with
      | none => exact ⟨_, _, _, .stay hs hread hw⟩
      | some target =>
        obtain ⟨next, g'', log, trail⟩ := @ih (s.id :: visited) target passage.state g'
        exact ⟨_, _, _, .leave hs hread hw trail⟩

namespace Trail

variable {depth : Nat} {visited : List String} {id : String} {state : State} {g g' : Generator}
  {screen : Screen} {log : List Arrival}

/-- A trail is what the recursion does. -/
lemma followLogged_eq (h : story.Trail revisits depth visited id state g screen g' log) :
    story.followLogged revisits depth visited id state g = ((screen, g'), log) := by
  induction h with
  | spent => rfl
  | missing hs => simp only [followLogged, hs]
  | stay hs hread hw => exact followLogged_stay hs hread hw
  | leave hs hread hw _ ih =>
    rw [followLogged_leave hs hread hw, ih]
    rfl

/-- The sections that are read are sections of the story. -/
lemma mem_sections (h : story.Trail revisits depth visited id state g screen g' log) :
    ∀ a ∈ log, a.place ∈ story.sections := by
  induction h with
  | spent => exact nofun
  | missing => exact nofun
  | stay hs =>
    intro a ha
    cases List.mem_singleton.1 ha
    exact List.mem_of_find?_eq_some hs
  | leave hs _ _ _ ih =>
    intro a ha
    cases ha with
    | head => exact List.mem_of_find?_eq_some hs
    | tail _ ha => exact ih a ha

end Trail

/-- The screen of a section has a trail, whose log is the log of the recursion. -/
lemma trail_resolveNext {config : Config} {id state g} :
    story.Trail config.revisits config.maxDepth [] id state g
      (story.resolveNext config id state g).1 (story.resolveNext config id state g).2
      (story.followLogged config.revisits config.maxDepth [] id state g).2 := by
  obtain ⟨screen, g', log, trail⟩ :=
    @exists_trail story config.revisits config.maxDepth [] id state g
  have e := trail.followLogged_eq
  have he : story.resolveNext config id state g = (screen, g') := by
    rw [resolveNext, ← followLogged_fst, e]
  rw [he, e]
  exact trail

end Story

end Gamebook
