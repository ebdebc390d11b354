import Gamebook.Proofs.Trail

/-!
# Ways on

A screen that offers a single way on would leave nothing to choose, so the way is followed instead.
Only a way that leads back to a section of the same screen may be left over, where revisits are
rejected. Main statement: `Story.lone_choice_leads_back`; a story where a way is left over is
`Story.roundTrip`.
-/

namespace Gamebook

namespace Part

/-- The choices are the ways on. -/
lemma isSome_choice? (part : Part) : part.choice?.isSome = part.isLink := by
  cases part <;> rfl

/-- A choice leads where its part leads. -/
lemma linkTarget?_eq (part : Part) : part.linkTarget? = part.choice?.map Choice.target := by
  cases part <;> rfl

end Part

section Choices

variable {parts : List Part}

lemma length_choicesOf : (choicesOf parts).length = (parts.filter Part.isLink).length := by
  rw [choicesOf, List.length_filterMap_eq_countP, List.countP_eq_length_filter]
  simp only [Part.isSome_choice?]

lemma choicesOf_withoutLinks : choicesOf (withoutLinks parts) = [] := by
  rw [← List.length_eq_zero_iff, length_choicesOf, withoutLinks, List.filter_filter]
  simp

/-- The aims of parts are where their choices lead. -/
lemma aims_eq_map_choicesOf : Walk.aims parts = (choicesOf parts).map Choice.target := by
  induction parts with
  | nil => rfl
  | cons part parts ih =>
    cases part with
    | link l =>
      rw [Walk.aims, Walk.aim_eq_targetName, ih]
      rfl
    | navigation text target =>
      rw [Walk.aims, Walk.aim_eq_targetName, ih]
      rfl
    | _ => exact ih

/-- The only choice among some parts is their only way on. -/
lemma onlyTarget?_of_choicesOf {choice} (h : choicesOf parts = [choice]) :
    onlyTarget? parts = some choice.target := by
  rw [Walk.onlyTarget?_eq_some_iff, aims_eq_map_choicesOf, h]
  rfl

/-- The way that is followed is no choice, so the choices are those of the next screen. -/
lemma choices_leaving {s passage next} :
    (Screen.leaving s passage next).choices = next.choices := by
  rw [Screen.choices, Screen.choices, Screen.leaving, choicesOf, choicesOf, List.filterMap_append]
  exact congrArg (· ++ _) choicesOf_withoutLinks

end Choices

namespace Story

variable {story : Story} {revisits : Revisits}

/-- A single choice is left over only where it leads back to a section that was read before. -/
lemma Trail.lone_choice {depth visited id state g screen g' log choice}
    (h : story.Trail revisits depth visited id state g screen g' log)
    (hc : screen.choices = [choice]) :
    revisits = .rejected ∧ (choice.target ∈ visited ∨ ∃ a ∈ log, a.place.id = choice.target) := by
  induction h with
  | spent => cases hc
  | missing => cases hc
  | @stay depth visited id state g s passage g' hs hread hw =>
    obtain ⟨hr, ht⟩ := Walk.wayOn?_eq_none_iff.1 hw _ (onlyTarget?_of_choicesOf hc)
    refine ⟨hr, ?_⟩
    cases List.mem_cons.1 ht with
    | inl e => exact .inr ⟨_, List.mem_singleton_self _, e.symm⟩
    | inr ht => exact .inl ht
  | leave hs hread hw _ ih =>
    obtain ⟨hr, ht | ⟨a, ha, ht⟩⟩ := ih (choices_leaving.symm.trans hc)
    · refine ⟨hr, ?_⟩
      cases List.mem_cons.1 ht with
      | inl e => exact .inr ⟨_, List.mem_cons_self, e.symm⟩
      | inr ht => exact .inl ht
    · exact ⟨hr, .inr ⟨a, List.mem_cons_of_mem _ ha, ht⟩⟩

/--
The choices of a screen are its ways on, and there is never a single one where revisits are allowed.
Where they are rejected, a single choice leads back to a section of the story that was read for the
same screen.
-/
theorem lone_choice_leads_back (story : Story) (config : Config) (id : String) (state : State)
    (g : Generator) :
    let screen := (story.resolveNext config id state g).1
    let log := (story.followLogged config.revisits config.maxDepth [] id state g).2
    screen.choices.length = (screen.parts.filter Part.isLink).length ∧
      (config.revisits = .allowed → screen.choices.length ≠ 1) ∧
      (config.revisits = .rejected → ∀ choice, screen.choices = [choice] →
        ∃ a ∈ log, a.place ∈ story.sections ∧ a.place.id = choice.target) := by
  intro screen log
  have trail := @trail_resolveNext story config id state g
  refine ⟨length_choicesOf, ?_, ?_⟩
  · intro hr hlen
    obtain ⟨choice, hc⟩ := List.length_eq_one_iff.1 hlen
    have rejected := (trail.lone_choice hc).1
    rw [hr] at rejected
    cases rejected
  · intro _ choice hc
    obtain ⟨-, ht | ⟨a, ha, ht⟩⟩ := trail.lone_choice hc
    · cases ht
    · exact ⟨a, ha, trail.mem_sections a ha, ht⟩

/-- Two sections, each with one way on to the other. -/
def roundTrip : Story where
  title := "Round trip"
  description := []
  settings := .setting .empty
  sections := [
    { id := "there"
      heading := "There"
      parts := [.paragraph "You go there." none, .navigation "On" "#back"] },
    { id := "back"
      heading := "Back"
      parts := [.paragraph "You go back." none, .link ⟨"On", "#there", none⟩] }]
  images := []

/-- The way back is left over as the only choice. -/
theorem lone_choice_roundTrip :
    let config : Config := { revisits := .rejected }
    let screen := (roundTrip.resolveNext config "there" .empty (.ofSeed 1)).1
    config.revisits = .rejected ∧ screen.choices = [⟨"On", "there"⟩] ∧
      ∃ a ∈ (roundTrip.followLogged .rejected 10 [] "there" .empty (.ofSeed 1)).2,
        a.place ∈ roundTrip.sections ∧ a.place.id = "there" := by
  intro config screen
  have hc : screen.choices = [⟨"On", "there"⟩] := by decide +kernel
  exact ⟨rfl, hc, (lone_choice_leads_back roundTrip config "there" .empty (.ofSeed 1)).2.2 rfl _ hc⟩

end Story

end Gamebook
