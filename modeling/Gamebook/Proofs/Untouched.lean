import Gamebook.Proofs.Merging
import Gamebook.Proofs.Settings

/-!
# What reading a section leaves alone

The actions of a section name the paths that they assign to. Which of them are applied is decided
while the section is read, but no other path gets a new leaf, and no leaf gets lost but for a path
that is named or for one that collides with it. So a leaf that has nothing to do with the paths that
are named is there afterwards. Main definition: `Section.named`. Main statement:
`Section.resolve_untouched`.
-/

namespace Gamebook

namespace Part

mutual

/-- The actions of a part, in whatever branch. -/
def actions : Part → List Action
  | action a => [a]
  | condition _ whenTrue whenFalse => actionsOf whenTrue ++ actionsOf whenFalse
  | _ => []

/-- The actions of parts, in whatever branch. -/
def actionsOf : List Part → List Action
  | [] => []
  | part :: parts => part.actions ++ actionsOf parts

end

end Part

/-- The paths that the actions of a section name. -/
def Section.named (s : Section) : List String :=
  (Part.actionsOf s.parts).flatMap (·.state.flatten.keys)

/-- An action assigns to its paths in order. -/
lemma keys_assignedLeaves {assignments rest sheet g} :
    Ordered.keys (assignedLeaves assignments rest sheet g) = Ordered.keys rest := by
  induction rest generalizing sheet g with
  | nil => rfl
  | cons assignment rest ih => exact congrArg (assignment.1 :: ·) ih

namespace Part

mutual

/-- An assignment made while a part is read is one of its actions. -/
lemma exists_action {sheet g path} (part : Part) (h : path ∈ Ordered.keys (part.assigned sheet g)) :
    ∃ a ∈ part.actions, path ∈ a.state.flatten.keys := by
  cases part with
  | action a =>
    rw [assigned, keys_assignedLeaves] at h
    exact ⟨a, List.mem_singleton_self a, h⟩
  | condition c whenTrue whenFalse =>
    cases hd : (decideCondition c.expression sheet g).1.holds with
    | true =>
      simp only [assigned, hd, if_true] at h
      obtain ⟨a, ha, hpath⟩ := exists_action_of whenTrue h
      exact ⟨a, List.mem_append_left _ ha, hpath⟩
    | false =>
      simp only [assigned, hd, Bool.false_eq_true, if_false] at h
      obtain ⟨a, ha, hpath⟩ := exists_action_of whenFalse h
      exact ⟨a, List.mem_append_right _ ha, hpath⟩
  | _ => cases h

/-- An assignment made while parts are read is one of their actions. -/
lemma exists_action_of {sheet g path} (parts : List Part)
    (h : path ∈ Ordered.keys (assignedByAll sheet g parts)) :
    ∃ a ∈ actionsOf parts, path ∈ a.state.flatten.keys := by
  cases parts with
  | nil => cases h
  | cons part parts =>
    rw [assignedByAll, Ordered.keys, List.map_append, List.mem_append] at h
    rcases h with h | h
    · obtain ⟨a, ha, hpath⟩ := exists_action part h
      exact ⟨a, List.mem_append_left _ ha, hpath⟩
    · obtain ⟨a, ha, hpath⟩ := exists_action_of parts h
      exact ⟨a, List.mem_append_right _ ha, hpath⟩

end

end Part

namespace Section

variable {s : Section} {state settings : State} {g : Generator} {path : String}

/-- Only paths that are named are assigned to. -/
lemma mem_named_of_assigned (h : path ∈ Ordered.keys (s.assigned state settings g)) :
    path ∈ s.named := by
  obtain ⟨a, ha, hpath⟩ := Part.exists_action_of s.parts h
  exact List.mem_flatMap.2 ⟨a, ha, hpath⟩

/-- The sheet that the state after a section is made from. -/
def kept (s : Section) (state settings : State) (g : Generator) : Sheet :=
  ((settings.flatten.overlay state.flatten).insertAll (s.assigned state settings g)).without
    settings.flatten

lemma state_resolve : (s.resolve state settings g).1.state = (s.kept state settings g).rebuild := by
  rw [kept, assigned, ← Part.readAll_sheet]
  rfl

/-- What is kept is of the state before, or it is named. -/
lemma mem_kept (h : path ∈ (s.kept state settings g).keys) :
    path ∈ state.flatten.keys ∨ path ∈ s.named := by
  rw [kept, Sheet.keys_without, List.mem_filter, Sheet.not_contains_iff] at h
  obtain ⟨h, hsettings⟩ := h
  rcases List.mem_append.1 (Sheet.mem_keys_insertAll.1 h) with h | h
  · rcases List.mem_append.1 (Sheet.mem_keys_insertAll.1 h) with h | h
    · exact (hsettings h).elim
    · exact .inl h
  · exact .inr (mem_named_of_assigned h)

/-- A leaf that is not named is kept. -/
lemma get?_kept {leaf : Scalar} (h : state.flatten.get? path = some leaf)
    (hsettings : path ∉ settings.flatten.keys) (hnamed : path ∉ s.named) :
    (s.kept state settings g).get? path = some leaf := by
  have unassigned : path ∉ Ordered.keys (s.assigned state settings g) :=
    fun hpath => hnamed (mem_named_of_assigned hpath)
  rw [kept, Sheet.get?_without hsettings, Sheet.get?_insertAll unassigned, Sheet.get?_overlay, h]
  rfl

/--
After a section is read, a leaf of the state before is still there if its path is no path of the
settings, no path that an action of the section names, in whatever branch, and does not collide with
one of those; and no path has a leaf but those of the state before and those that are named.
-/
theorem resolve_untouched (s : Section) (state settings : State) (g : Generator)
    (h : state.tree.Dotless) :
    let result := (s.resolve state settings g).1.state
    (∀ path leaf, state.lookup? path = some leaf → path ∉ settings.flatten.keys →
      (∀ q ∈ s.named, q ≠ path ∧ ¬ Collides q path) → result.lookup? path = some leaf) ∧
      ∀ path ∈ result.flatten.keys, path ∈ state.flatten.keys ∨ path ∈ s.named := by
  intro result
  have made : result = (s.kept state settings g).rebuild := state_resolve
  rw [made]
  refine ⟨fun path leaf hleaf hsettings hnamed => ?_, fun path hpath => ?_⟩
  · rw [← State.get?_flatten h] at hleaf
    have unnamed : path ∉ s.named := fun hpath => (hnamed path hpath).1 rfl
    have hpath : path ∈ state.flatten.keys := Ordered.get?_isSome_iff.1 (Option.isSome_of_mem hleaf)
    refine Sheet.lookup?_rebuild_iff.2 ⟨get?_kept hleaf hsettings unnamed, fun q hq hc => ?_⟩
    -- nothing that is kept collides with the path
    rcases mem_kept hq with hq | hq
    · exact (State.not_collides_flatten h hq hpath hc).elim
    · exact ((hnamed q hq).2 hc).elim
  · exact mem_kept (Sheet.mem_keys_flatten_rebuild hpath)

/-- A nest with eggs, which only the hungry take. -/
def nest : Section where
  id := "nest"
  heading := "Nest"
  parts := [
    .condition ⟨"{hunger} > {limit}", none, none, none⟩
      [.action (.setting (State.empty.insertPath ["bag", "egg"] (.text "+=1")))]
      [.condition ⟨"{eaten} = 3", none, none, none⟩ []
        [.action (.setting (State.empty.insertPath ["hunger"] (.text "+=1")))]]]

/-- Whether or not the eggs are taken, the rope stays in the bag. -/
theorem resolve_untouched_nest :
    let state := (State.empty.insertPath ["hunger"] (.number 4)).insertPath ["bag", "rope"]
      (.text "old")
    let settings := State.empty.insertPath ["limit"] (.number 3)
    let result := (nest.resolve state settings (.ofSeed 1)).1.state
    state.tree.Dotless ∧ state.lookup? "bag.rope" = some (.text "old") ∧
      "bag.rope" ∉ settings.flatten.keys ∧
      (∀ q ∈ nest.named, q ≠ "bag.rope" ∧ ¬ Collides q "bag.rope") ∧
      result.lookup? "bag.rope" = some (.text "old") ∧
      ∀ path ∈ result.flatten.keys, path ∈ state.flatten.keys ∨ path ∈ ["bag.egg", "hunger"] := by
  intro state settings result
  have hdot : state.tree.Dotless := by decide
  have hleaf : state.lookup? "bag.rope" = some (.text "old") := by decide +kernel
  have hsettings : "bag.rope" ∉ settings.flatten.keys := by decide +kernel
  have hnamed : nest.named = ["bag.egg", "hunger"] := by decide +kernel
  have hclear : ∀ q ∈ nest.named, q ≠ "bag.rope" ∧ ¬ Collides q "bag.rope" := by decide +kernel
  obtain ⟨stays, named⟩ := resolve_untouched nest state settings (.ofSeed 1) hdot
  rw [hnamed] at named
  exact ⟨hdot, hleaf, hsettings, hclear, stays _ _ hleaf hsettings hclear, named⟩

end Section

end Gamebook
