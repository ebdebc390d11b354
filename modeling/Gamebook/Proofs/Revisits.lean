import Gamebook.Proofs.Trail
import Mathlib.Data.List.Dedup

/-!
# Rejected revisits

Where revisits are rejected, every section that is read for a screen is one that was not read for it
before. So the sections that are left become fewer with each step, and the depth does not matter if
it covers all of them: a way on that is taken after that leads to no section, which gives the same
as a depth that is used up. Main definitions: `Story.unvisited`, `Story.Forward`. Main statement:
`Story.resolveNext_rejected`.
-/

namespace Gamebook

/-- What reading the section gives. -/
def Arrival.passage (a : Arrival) (settings : State) : Passage :=
  (a.place.resolve a.state settings a.generator).1

namespace Story

/-- The names of the sections, each of them once. -/
def ids (story : Story) : List String :=
  (story.sections.map (·.id)).dedup

/-- The names of the sections that have not been visited. -/
def unvisited (story : Story) (visited : List String) : List String :=
  story.ids.filter (· ∉ visited)

/-- Whether no section that is read has a way back as its only way on. -/
def Forward (story : Story) : (visited : List String) → List Arrival → Prop
  | _, [] => True
  | visited, a :: log =>
    (∀ target ∈ onlyTarget? (a.passage story.settings.state).parts,
      target ∉ a.place.id :: visited) ∧ Forward story (a.place.id :: visited) log

instance decidableForward (story : Story) :
    (visited : List String) → (log : List Arrival) → Decidable (story.Forward visited log)
  | _, [] => inferInstanceAs (Decidable True)
  | visited, a :: log =>
    have := decidableForward story (a.place.id :: visited) log
    inferInstanceAs (Decidable (_ ∧ _))

variable {story : Story} {depth : Nat} {visited : List String} {id : String} {state : State}
  {g g' : Generator} {screen : Screen} {log : List Arrival} {s : Section}

lemma mem_unvisited (hs : story.section? id = some s) (hid : id ∉ visited) :
    id ∈ story.unvisited visited := by
  apply List.mem_filter.2
  refine ⟨?_, decide_eq_true hid⟩
  apply List.mem_dedup.2
  exact List.mem_map.2 ⟨s, List.mem_of_find?_eq_some hs, id_of_section? hs⟩

/-- A visit to a section leaves one section less. -/
lemma length_unvisited_cons (hs : story.section? id = some s) (hid : id ∉ visited) :
    (story.unvisited (id :: visited)).length + 1 = (story.unvisited visited).length := by
  have nodup : (story.unvisited visited).Nodup := (List.nodup_dedup _).filter _
  have erased : story.unvisited (id :: visited) = (story.unvisited visited).erase id := by
    rw [nodup.erase_eq_filter, unvisited, unvisited, List.filter_filter]
    apply List.filter_congr
    intro other _
    by_cases e : other = id <;> simp [e]
  rw [erased, List.length_erase_add_one (mem_unvisited hs hid)]

namespace Trail

/-- No section is read twice, and none that was visited. -/
lemma nodup_ids (h : story.Trail .rejected depth visited id state g screen g' log)
    (hid : id ∉ visited) :
    (log.map (·.place.id)).Nodup ∧ ∀ a ∈ log, a.place.id ∉ visited := by
  induction h with
  | spent => exact ⟨.nil, nofun⟩
  | missing => exact ⟨.nil, nofun⟩
  | stay hs =>
    refine ⟨List.nodup_singleton _, ?_⟩
    intro a ha
    cases List.mem_singleton.1 ha
    exact id_of_section? hs ▸ hid
  | @leave depth visited id state g s passage g' target next g'' log hs _ hw _ ih =>
    obtain ⟨-, fresh⟩ := Walk.wayOn?_eq_some_iff.1 hw
    obtain ⟨nodup, later⟩ := ih fun ht => fresh ⟨rfl, ht⟩
    constructor
    · apply List.nodup_cons.2
      refine ⟨?_, nodup⟩
      intro hmem
      obtain ⟨a, ha, e⟩ := List.mem_map.1 hmem
      exact later a ha (e ▸ List.mem_cons_self)
    · intro a ha
      cases ha with
      | head => exact id_of_section? hs ▸ hid
      | tail _ ha => exact fun hv => later a ha (List.mem_cons_of_mem _ hv)

/-- Any depth that covers the sections that are left gives the same trail. -/
lemma deepen (h : story.Trail .rejected depth visited id state g screen g' log)
    (hid : id ∉ visited) (hd : (story.unvisited visited).length ≤ depth) {depth' : Nat}
    (hd' : (story.unvisited visited).length ≤ depth') :
    story.Trail .rejected depth' visited id state g screen g' log := by
  induction h generalizing depth' with
  | @spent visited id state g =>
    cases depth' with
    | zero => exact .spent
    | succ depth' =>
      cases hs : story.section? id with
      | none => exact .missing hs
      | some s =>
        -- no depth is left only where no section is left
        have one := List.length_pos_of_mem (mem_unvisited hs hid)
        omega
  | missing hs =>
    cases depth' with
    | zero => exact .spent
    | succ depth' => exact .missing hs
  | stay hs hread hw =>
    have one := List.length_pos_of_mem (mem_unvisited hs hid)
    cases depth' with
    | zero => omega
    | succ depth' => exact .stay hs hread hw
  | leave hs hread hw _ ih =>
    have less := length_unvisited_cons hs hid
    rw [← id_of_section? hs] at less hid
    obtain ⟨-, fresh⟩ := Walk.wayOn?_eq_some_iff.1 hw
    cases depth' with
    | zero => omega
    | succ depth' =>
      apply Trail.leave hs hread hw
      exact ih (fun ht => fresh ⟨rfl, ht⟩) (by omega) (by omega)

/-- A trail that never leads back is the same where revisits are rejected. -/
lemma reject (h : story.Trail .allowed depth visited id state g screen g' log)
    (hf : story.Forward visited log) :
    story.Trail .rejected depth visited id state g screen g' log := by
  induction h with
  | spent => exact .spent
  | missing hs => exact .missing hs
  | stay hs hread hw =>
    apply Trail.stay hs hread
    apply Walk.wayOn?_eq_none_iff.2
    intro target ht
    cases (Walk.wayOn?_eq_none_iff.1 hw target ht).1
  | @leave depth visited id state g s passage g' target next g'' log hs hread hw _ ih =>
    obtain ⟨ht, -⟩ := Walk.wayOn?_eq_some_iff.1 hw
    apply Trail.leave hs hread _ (ih hf.2)
    apply Walk.wayOn?_eq_some_iff.2
    refine ⟨ht, ?_⟩
    rintro ⟨-, back⟩
    refine hf.1 target ?_ back
    rw [Arrival.passage, hread]
    exact ht

lemma resolveNext_eq {revisits : Revisits}
    (h : story.Trail revisits depth [] id state g screen g' log) :
    story.resolveNext ⟨depth, revisits⟩ id state g = (screen, g') := by
  rw [resolveNext, ← followLogged_fst, h.followLogged_eq]

end Trail

/--
Where revisits are rejected, no section is read twice for a screen, and depths that are at least the
number of section names give the same screen and leave the same generator. For any depth, if no
section that is read where revisits are allowed has a way back as its only way on, then the screen
and the generator are the same where they are rejected.
-/
theorem resolveNext_rejected (story : Story) (id : String) (state : State) (g : Generator) :
    (∀ depth, ((story.followLogged .rejected depth [] id state g).2.map (·.place.id)).Nodup) ∧
      (∀ depth depth', story.ids.length ≤ depth → story.ids.length ≤ depth' →
        story.resolveNext ⟨depth, .rejected⟩ id state g =
          story.resolveNext ⟨depth', .rejected⟩ id state g) ∧
      (∀ depth, story.Forward [] (story.followLogged .allowed depth [] id state g).2 →
        story.resolveNext ⟨depth, .rejected⟩ id state g =
          story.resolveNext ⟨depth, .allowed⟩ id state g) := by
  refine ⟨?_, ?_, ?_⟩
  · intro depth
    have trail := @trail_resolveNext story ⟨depth, .rejected⟩ id state g
    exact (trail.nodup_ids List.not_mem_nil).1
  · intro depth depth' hd hd'
    have all : (story.unvisited []).length = story.ids.length := by
      rw [unvisited, List.filter_eq_self.2 (by simp)]
    rw [← all] at hd hd'
    have trail := @trail_resolveNext story ⟨depth, .rejected⟩ id state g
    exact (trail.deepen List.not_mem_nil hd hd').resolveNext_eq.symm
  · intro depth hf
    have trail := @trail_resolveNext story ⟨depth, .allowed⟩ id state g
    exact (trail.reject hf).resolveNext_eq

/-- A way from a hill down into a valley, and no way back. -/
def downhill : Story where
  title := "Downhill"
  description := []
  settings := .setting .empty
  sections := [
    { id := "hill", heading := "Hill", parts := [.navigation "Down" "#slope"] },
    { id := "slope", heading := "Slope", parts := [.link ⟨"Down", "#valley", none⟩] },
    { id := "valley", heading := "Valley", parts := [.paragraph "You rest." none] }]
  images := []

/-- The depth covers the way into the valley, and the way never leads back. -/
theorem resolveNext_downhill :
    let g := Generator.ofSeed 1
    (downhill.ids.length ≤ 3 ∧ downhill.ids.length ≤ 12 ∧
      downhill.resolveNext ⟨3, .rejected⟩ "hill" .empty g =
        downhill.resolveNext ⟨12, .rejected⟩ "hill" .empty g) ∧
      downhill.Forward [] (downhill.followLogged .allowed 12 [] "hill" .empty g).2 ∧
      downhill.resolveNext ⟨12, .rejected⟩ "hill" .empty g =
        downhill.resolveNext ⟨12, .allowed⟩ "hill" .empty g := by
  intro g
  obtain ⟨-, deep, forward⟩ := resolveNext_rejected downhill "hill" .empty g
  have hf : downhill.Forward [] (downhill.followLogged .allowed 12 [] "hill" .empty g).2 := by
    decide +kernel
  exact ⟨⟨by decide, by decide, deep 3 12 (by decide) (by decide)⟩, hf, forward 12 hf⟩

end Story

end Gamebook
