import Gamebook.Proofs.LastWrite
import Gamebook.Proofs.Plays
import Gamebook.Proofs.Trail

/-!
# Settings stay apart

Settings lie under the state while a section is read and are taken out of it afterwards. The state
is made anew from the sheet that is left, which gives it no paths but those of the sheet. So no path
of the settings is ever a path of a player's state, whatever actions assign, and the sections that
come later read the settings as the story has them. Main definitions: `State.Apart`,
`Arrival.StartsFrom`, `Session.arrivals`. Main statements: `Sheet.mem_keys_flatten_rebuild`,
`Session.settings_stay_apart`.
-/

namespace Gamebook

namespace Tree

variable {tree : Tree} {key : String} {path : List String} {value : Scalar}
  {e : List String × Scalar}

/-- An insertion has the leaves of the tree and those of the value. -/
lemma mem_leaves_insert {v : Value} (h : e ∈ (tree.insert key v).leaves) :
    e ∈ tree.leaves ∨ e ∈ (cons key v nil).leaves := by
  -- the value is put in the place of what was at the key, or at the end
  have front {rest : Tree} (h : e ∈ (cons key v rest).leaves) :
      e ∈ rest.leaves ∨ e ∈ (cons key v nil).leaves := by
    cases v with
    | scalar leaf =>
      cases h with
      | head => exact .inr List.mem_cons_self
      | tail _ h => exact .inl h
    | table sub =>
      rcases List.mem_append.1 h with h | h
      · exact .inr (List.mem_append_left _ h)
      · exact .inl h
  induction tree with
  | nil => exact front h
  | leaf k leaf rest ih =>
    rw [insert] at h
    split at h
    · exact (front h).imp_left (List.mem_cons_of_mem _)
    · cases h with
      | head => exact .inl List.mem_cons_self
      | tail _ h => exact (ih h).imp_left (List.mem_cons_of_mem _)
  | table k sub rest _ ih =>
    rw [insert] at h
    split at h
    · exact (front h).imp_left (List.mem_append_right _)
    · rcases List.mem_append.1 h with h | h
      · exact .inl (List.mem_append_left _ h)
      · exact (ih h).imp_left (List.mem_append_right _)

/-- The leaves of the table under a key are leaves behind the key. -/
lemma mem_leaves_subtable (h : e ∈ (tree.subtable key).leaves) :
    (key :: e.1, e.2) ∈ tree.leaves := by
  induction tree with
  | nil => cases h
  | leaf k leaf rest ih =>
    by_cases hk : k = key
    · simp only [subtable, get?, hk, if_true] at h
      cases h
    · simp only [subtable, get?, hk, if_false] at h
      exact List.mem_cons_of_mem _ (ih h)
  | table k sub rest _ ih =>
    by_cases hk : k = key
    · subst hk
      simp only [subtable, get?, if_true] at h
      exact List.mem_append_left _ (List.mem_map.2 ⟨e, h, rfl⟩)
    · simp only [subtable, get?, hk, if_false] at h
      exact List.mem_append_right _ (ih h)

/-- An insertion at the end of a path has the leaves of the tree and the one that is inserted. -/
lemma mem_leaves_insertPath (h : e ∈ (tree.insertPath path value).leaves) :
    e ∈ tree.leaves ∨ e = (path, value) := by
  fun_induction insertPath path value tree generalizing e with
  | case1 => exact .inl h
  | case2 key value tree => exact (mem_leaves_insert h).imp_right List.mem_singleton.1
  | case3 key next path value tree ih =>
    rcases mem_leaves_insert h with h | h
    · exact .inl h
    -- the leaf is in the table that is put under the first key
    · rw [cons, leaves, leaves, List.append_nil] at h
      obtain ⟨f, hf, rfl⟩ := List.mem_map.1 h
      rcases ih hf with hf | rfl
      · exact .inl (mem_leaves_subtable hf)
      · exact .inr rfl

/-- The flat paths are the paths of the leaves, joined. -/
lemma mem_keys_flatten {p : String} :
    p ∈ tree.flatten.keys ↔ ∃ e ∈ tree.leaves, joinPath e.1 = p := by
  rw [flatten, Sheet.ofList, Sheet.mem_keys_insertAll, Ordered.keys, List.map_map]
  exact List.mem_map

end Tree

/-- The leaves after insertions are leaves from before and the ones that are inserted. -/
lemma State.mem_leaves_insertLeaves {state : State} {leaves : List (String × Scalar)} {e}
    (h : e ∈ (state.insertLeaves leaves).tree.leaves) :
    e ∈ state.tree.leaves ∨ ∃ f ∈ leaves, e = (splitPath f.1, f.2) := by
  induction leaves generalizing state with
  | nil => exact .inl h
  | cons f leaves ih =>
    rcases ih h with h | ⟨f', hf, rfl⟩
    · rcases Tree.mem_leaves_insertPath h with h | rfl
      · exact .inl h
      · exact .inr ⟨f, List.mem_cons_self, rfl⟩
    · exact .inr ⟨f', List.mem_cons_of_mem _ hf, rfl⟩

/-- The state that is made from a sheet has no paths but those of the sheet. -/
lemma Sheet.mem_keys_flatten_rebuild {sheet : Sheet} {path : String}
    (h : path ∈ sheet.rebuild.flatten.keys) : path ∈ sheet.keys := by
  obtain ⟨e, he, rfl⟩ := Tree.mem_keys_flatten.1 h
  obtain he | ⟨f, hf, rfl⟩ := State.mem_leaves_insertLeaves he
  · cases he
  · rw [joinPath_splitPath]
    exact List.mem_map.2 ⟨f, hf, rfl⟩

/-- Whether no path of the settings is a path of the state. -/
def State.Apart (state settings : State) : Prop :=
  ∀ path ∈ settings.flatten.keys, path ∉ state.flatten.keys

/-- The leaves that a section starts with. -/
def Arrival.opening (a : Arrival) (settings : State) : Sheet :=
  settings.flatten.overlay a.state.flatten

/-- Whether a section starts with the settings as they are. -/
def Arrival.StartsFrom (a : Arrival) (settings : State) : Prop :=
  ∀ path ∈ settings.flatten.keys, (a.opening settings).get? path = settings.flatten.get? path

/-- A section whose state is apart from the settings starts with the settings as they are. -/
lemma State.Apart.startsFrom {settings : State} {a : Arrival} (h : a.state.Apart settings) :
    a.StartsFrom settings := by
  intro path hpath
  exact Sheet.get?_insertAll (h path hpath)

/-- The state that a section leaves is apart from the settings. -/
lemma Section.apart_of_resolve {s : Section} {state settings : State} {g g' : Generator}
    {passage : Passage} (h : s.resolve state settings g = (passage, g')) :
    passage.state.Apart settings := by
  cases h
  intro path hpath h
  have kept := Sheet.mem_keys_flatten_rebuild h
  rw [Sheet.keys_without, List.mem_filter, Sheet.not_contains_iff] at kept
  exact kept.2 hpath

namespace Story.Trail

variable {story : Story} {revisits : Revisits} {depth : Nat} {visited : List String} {id : String}
  {state : State} {g g' : Generator} {screen : Screen} {log : List Arrival}

/-- The state on the screen is apart from the settings if the first one was or a section is read. -/
lemma apart_screen (h : story.Trail revisits depth visited id state g screen g' log)
    (hs : state.Apart story.settings.state ∨ log ≠ []) :
    screen.state.Apart story.settings.state := by
  induction h with
  | spent => exact hs.resolve_right fun hne => hne rfl
  | missing => exact hs.resolve_right fun hne => hne rfl
  | stay _ hread => exact Section.apart_of_resolve hread
  | leave _ hread _ _ ih => exact ih (.inl (Section.apart_of_resolve hread))

/-- All sections start with the settings as they are, if the first state is apart from them. -/
lemma apart_of_mem (h : story.Trail revisits depth visited id state g screen g' log)
    (hs : state.Apart story.settings.state) : ∀ a ∈ log, a.state.Apart story.settings.state := by
  induction h with
  | spent => exact nofun
  | missing => exact nofun
  | stay =>
    intro a ha
    cases List.mem_singleton.1 ha
    exact hs
  | leave _ hread _ _ ih =>
    intro a ha
    cases ha with
    | head => exact hs
    | tail _ ha => exact ih (Section.apart_of_resolve hread) a ha

/-- All sections but the first one start with the settings as they are. -/
lemma apart_of_mem_tail (h : story.Trail revisits depth visited id state g screen g' log) :
    ∀ a ∈ log.tail, a.state.Apart story.settings.state := by
  cases h with
  | spent => exact nofun
  | missing => exact nofun
  | stay => exact nofun
  | leave _ hread _ trail => exact trail.apart_of_mem (Section.apart_of_resolve hread)

lemma log_ne_nil (h : story.Trail revisits depth visited id state g screen g' log)
    (hd : depth ≠ 0) {s} (hs : story.section? id = some s) : log ≠ [] := by
  cases h with
  | spent => exact (hd rfl).elim
  | missing hm =>
    rw [hs] at hm
    cases hm
  | stay => exact List.cons_ne_nil _ _
  | leave => exact List.cons_ne_nil _ _

end Story.Trail

namespace Session

variable {session next : Session}

/-- The sections that are read when a session enters the section of a bookmark. -/
def arrivals (session : Session) (b : Bookmark) : List Arrival :=
  (session.story.followLogged session.config.revisits session.config.maxDepth [] b.sectionId b.state
    session.generator).2

/-- Whether a session plays a story, with a state that is apart from the settings. -/
structure Tidy (story : Story) (config : Config) (session : Session) : Prop where
  /-- The story is not changed. -/
  story_eq : session.story = story
  /-- The configuration is not changed. -/
  config_eq : session.config = config
  /-- The state is apart from the settings. -/
  apart : session.screen.state.Apart story.settings.state

variable {story : Story} {config : Config}

lemma tidy_fresh {g} : Tidy story config (fresh story config g) :=
  ⟨rfl, rfl, fun _ _ h => nomatch h⟩

/-- A session is tidy after it enters a section, whatever the state is that it enters with. -/
lemma Tidy.enter (h : Tidy story config session) (hd : 1 ≤ config.maxDepth) {id state}
    (e : session.enter id state = .ok next) : Tidy story config next := by
  obtain ⟨rfl, rfl, -⟩ := h
  obtain ⟨⟨s, hs⟩, rfl⟩ := enter_cases e
  refine ⟨rfl, rfl, ?_⟩
  have trail := @Story.trail_resolveNext session.story session.config id state session.generator
  exact trail.apart_screen (.inr (trail.log_ne_nil (Nat.ne_of_gt hd) hs))

lemma invariant_tidy (hd : 1 ≤ config.maxDepth) :
    Invariant (Tidy story config) fun _ => True where
  empty := trivial
  screen _ := trivial
  enter h _ e := h.enter hd e

/-- A session is tidy after it is opened and steps are taken. -/
lemma tidy_run {g opening} {first : Session} (hd : 1 ≤ config.maxDepth)
    (ho : Opening.session story config g opening = .ok first) {steps} :
    Tidy story config (first.run steps) := by
  have opened : Tidy story config first := by
    cases opening with
    | anew =>
      cases ho
      exact tidy_fresh
    | resumed b => exact tidy_fresh.enter hd ho
  exact (invariant_tidy hd).run opened

/--
After a session is opened, from a bookmark with any state or anew, and any steps are taken, no path
of the settings is a path of the state. So all sections that are read when a choice is followed
start with the settings as they are, and so do all but the first one when any section is entered.
-/
theorem settings_stay_apart (story : Story) (config : Config) (g : Generator) (opening : Opening)
    (first : Session) (steps : List Step) (hd : 1 ≤ config.maxDepth)
    (ho : opening.session story config g = .ok first) :
    let settings := story.settings.state
    let session := first.run steps
    session.screen.state.Apart settings ∧
      (∀ index next b, session.choose index = .ok next → next.bookmark = some b →
        ∀ a ∈ session.arrivals b, a.StartsFrom settings) ∧
      (∀ caller : Session, caller.story = story →
        ∀ b, ∀ a ∈ (caller.arrivals b).tail, a.StartsFrom settings) := by
  intro settings session
  have tidy : Tidy story config session := tidy_run hd ho
  refine ⟨tidy.apart, ?_, ?_⟩
  · intro index next b e hb a ha
    obtain ⟨choice, -, e⟩ := choose_cases e
    obtain ⟨-, rfl⟩ := enter_cases e
    cases hb
    have trail := @Story.trail_resolveNext session.story session.config choice.target
      session.screen.state session.generator
    rw [show settings = session.story.settings.state by rw [tidy.story_eq]]
    exact (trail.apart_of_mem (tidy.story_eq ▸ tidy.apart) a ha).startsFrom
  · rintro caller rfl b a ha
    have trail := @Story.trail_resolveNext caller.story caller.config b.sectionId b.state
      caller.generator
    exact (trail.apart_of_mem_tail a ha).startsFrom

/-- A wolf bites a traveller, whose health is a setting. -/
def wolfAndCamp : Story where
  title := "Wolf and camp"
  description := []
  settings := .setting (.insert .empty "hp" (.scalar (.number 10)))
  sections := [
    { id := "wolf"
      heading := "Wolf"
      parts := [
        .condition ⟨"{hp} > 5", none, none, none⟩
          [.action (.setting
            (.insert (.insert .empty "hp" (.scalar (.text "-=3"))) "bites" (.scalar (.text "+=1"))))]
          [],
        .link ⟨"Fight", "#wolf", none⟩,
        .link ⟨"Run", "#camp", none⟩] },
    { id := "camp"
      heading := "Camp"
      parts := [.paragraph "You rest with {hp} hp." none] }]
  images := []

/-- A traveller comes back with less health than the settings give, fights, and may go on. -/
theorem settings_stay_apart_wolfAndCamp :
    let b : Bookmark := ⟨"wolf", .insert .empty "hp" (.scalar (.number 7))⟩
    let settings := wolfAndCamp.settings.state
    1 ≤ ({} : Config).maxDepth ∧
      ∃ first, (Opening.resumed b).session wolfAndCamp {} (.ofSeed 1) = .ok first ∧
        (first.run [.choose 0]).screen.state.Apart settings ∧
        ∀ index next b', (first.run [.choose 0]).choose index = .ok next → next.bookmark = some b' →
          ∀ a ∈ (first.run [.choose 0]).arrivals b', a.StartsFrom settings := by
  intro b settings
  obtain ⟨s, hs⟩ := Option.isSome_iff_exists.1 (by decide : (wolfAndCamp.section? "wolf").isSome)
  obtain ⟨first, ho⟩ :
      ∃ first, (Opening.resumed b).session wolfAndCamp {} (.ofSeed 1) = .ok first :=
    Opening.session_resumed hs
  have hd : 1 ≤ ({} : Config).maxDepth := by decide
  obtain ⟨apart, arrivals, -⟩ :=
    settings_stay_apart wolfAndCamp {} (.ofSeed 1) (.resumed b) first [.choose 0] hd ho
  exact ⟨hd, first, ho, apart, arrivals⟩

end Session

end Gamebook
