import Gamebook.Proofs.Contents
import Gamebook.Proofs.Plays
import Gamebook.Proofs.WaysOn

/-!
# Connected stories

A link may lead to a section that does not exist, which is reported when the story is read. Where
nothing is reported and no link leads out of the story, every way on leads to a section, in whatever
branch it is, so that a player can take every choice on every screen and no screen breaks off for
want of a section. Main definitions: `Story.Connected`, `Session.Ready`. Main statements:
`Markup.connected_assemble`, `Walk.next_found`, `Session.ready_run`, `Session.goes_on`.
-/

namespace Gamebook

open Markup

/-- Whether every way on leads to a section. -/
def Story.Connected (story : Story) : Prop :=
  ∀ s ∈ story.sections, ∀ part ∈ Part.preorderAll s.parts, ∀ name, part.linkTarget? = some name →
    (story.section? name).isSome

lemma Part.linkTarget?_eq_map {part : Part} : part.linkTarget? = part.target?.map targetName := by
  cases part <;> rfl

lemma Part.target?_alone {part : Part} : part.alone.target? = part.target? := by
  cases part <;> rfl

namespace Markup

/-- The target of a lexeme that leads to another section, as it is written. -/
def Lexeme.target? (l : Lexeme) : Option (List Char) :=
  match l.token with
  | .link _ href => some href
  | .code code =>
    match Marker.ofCode code with
    | .navigation _ target => some target
    | _ => none
  | _ => none

/-- Whether a problem is a link to no section. -/
def Problem.isDangling : Problem → Bool
  | noSection _ => true
  | _ => false

/-- The targets in the content of an entry. -/
def Entry.targets (e : Entry) : List String :=
  e.contents.filterMap Part.target?

lemma Entry.targets_of_contents {e : Entry} {part : Part} (h : e.contents = [part]) :
    e.targets = part.target?.toList :=
  filterMap_contents h

lemma Entry.targets_start {dialect level text anchor} :
    (Entry.start (startOf dialect level text anchor)).targets = [] :=
  filterMap_startOf rfl

namespace Draft

variable {d d' : Draft} {es : List Entry}

/-- Whether a draft notes the targets of entries, and no section that does not start among them. -/
structure Tracks (d : Draft) (es : List Entry) (d' : Draft) : Prop where
  targets : d'.noted = d.noted ++ es.flatMap Entry.targets
  headings : ∀ heading ∈ d'.headings,
    heading ∈ d.headings ∨ ∃ made, .start made ∈ es ∧ made.id = heading.1

namespace Tracks

lemma refl : Tracks d [] d :=
  ⟨(List.append_nil _).symm, fun _ => .inl⟩

lemma trans {d'' es'} (h : Tracks d es d') (h' : Tracks d' es' d'') : Tracks d (es ++ es') d'' := by
  refine ⟨?_, fun heading hmem => ?_⟩
  · rw [h'.targets, h.targets, List.flatMap_append, List.append_assoc]
  · obtain hmem | ⟨made, hmade, e⟩ := h'.headings heading hmem
    · obtain hmem | ⟨made, hmade, e⟩ := h.headings heading hmem
      · exact .inl hmem
      · exact .inr ⟨made, List.mem_append_left _ hmade, e⟩
    · exact .inr ⟨made, List.mem_append_right _ hmade, e⟩

/-- What notes nothing need not be tracked. -/
lemma of_notes (h : d'.notes = d.notes) (hes : es.flatMap Entry.targets = []) : Tracks d es d' := by
  have hheadings : d'.headings = d.headings := congrArg (·.1) h
  refine ⟨?_, fun heading hmem => .inl (hheadings ▸ hmem)⟩
  rw [noted_of_notes h, hes, List.append_nil]

lemma report {problem span} : Tracks d [] (d.report problem span) :=
  ⟨(List.append_nil _).symm, fun _ => .inl⟩

lemma note {e : Entry} {part span} (h : e.contents = [part]) : Tracks d [e] (d.note part span) := by
  obtain ⟨targets, diagnostics, hnote⟩ := @note_eq d part span
  have hheadings : (d.note part span).headings = d.headings := by
    rw [hnote]
  refine ⟨?_, fun heading hmem => .inl (hheadings ▸ hmem)⟩
  rw [noted_note, List.flatMap_singleton, Entry.targets_of_contents h]

end Tracks

/-- A move notes where its entry leads to. -/
lemma tracks_move (h : Move d es d') : Tracks d es d' := by
  cases h with
  | @content e part span he =>
    have noted : Tracks d [e] (d.note part span) := .note (Entry.contents_of_content? he)
    exact noted.trans (.of_notes notes_emit rfl)
  | @opening c span =>
    have noted : Tracks d [.opening c] (d.note (.condition c [] []) span) := .note rfl
    exact ⟨noted.targets, noted.headings⟩
  | otherwise => exact .of_notes rfl rfl
  | closing => exact .of_notes notes_closeFrame rfl
  | abandon => exact Tracks.report.trans (.of_notes notes_closeFrame rfl)
  | aside => exact .report
  | title => exact .of_notes notes_finishSection rfl
  | @start dialect level text anchor headings _ hheadings =>
    have finished : d.finishSection.noted = d.noted := noted_of_notes notes_finishSection
    refine ⟨?_, fun heading hmem => ?_⟩
    · rw [List.flatMap_singleton, Entry.targets_start, List.append_nil]
      exact finished
    · refine (hheadings heading hmem).imp_right fun e => ?_
      exact ⟨_, List.mem_singleton_self _, e.symm⟩

lemma tracks_moves (h : Moves d es d') : Tracks d es d' := by
  induction h with
  | refl => exact .refl
  | head first _ ih => exact (tracks_move first).trans ih

/-- A section is only noted if an entry starts it. -/
lemma tracks_reading {dialect lexemes} :
    Tracks empty (entriesOf dialect lexemes) (reading dialect lexemes).finishSection := by
  have read := tracks_moves (@moves_reading dialect lexemes).1
  have finished : Tracks (reading dialect lexemes) [] (reading dialect lexemes).finishSection :=
    .of_notes notes_finishSection rfl
  have both := read.trans finished
  rwa [List.append_nil] at both

/-- A link to no section is reported. -/
lemma any_headings {target span name}
    (hfound : ∀ x ∈ d.checkLinks.diagnostics, x.problem.isDangling = false)
    (h : (target, span) ∈ d.targets) (htarget : target.toList = '#' :: name) :
    d.headings.any (·.1 == .ofList name) = true := by
  cases hany : d.headings.any (·.1 == .ofList name) with
  | true => rfl
  | false =>
    have dangling : ⟨.noSection target, span⟩ ∈ d.checkLinks.diagnostics := by
      refine List.mem_append_right _ (List.mem_filterMap.2 ⟨(target, span), h, ?_⟩)
      simp only [htarget, hany]
      rfl
    cases hfound _ dangling

end Draft

section Stories

variable {dialect : Dialect} {lexemes : List Lexeme}

/-- A target in the content of a source is one of its lexemes. -/
lemma exists_target? {l : Lexeme} {e : Entry} {part : Part} {target} (source : Entry.Of dialect l e)
    (hp : part ∈ e.contents) (h : part.target? = some target) :
    ∃ written, l.target? = some written ∧ target = .ofList written := by
  cases source with
  | start =>
    rw [mem_parts_startOf hp] at h
    cases h
  | @link text href token =>
    cases List.mem_singleton.1 hp
    cases h
    refine ⟨href, ?_, rfl⟩
    rw [Lexeme.target?, token]
  | @navigation code text goal token hm =>
    cases List.mem_singleton.1 hp
    cases h
    refine ⟨goal, ?_, rfl⟩
    simp only [Lexeme.target?, token, hm]
  | paragraph hpar =>
    obtain ⟨-, rfl⟩ := paragraph?_eq_some hpar
    cases List.mem_singleton.1 hp
    cases h
  | title => cases hp
  | otherwise => cases hp
  | closing => cases hp
  | _ =>
    cases List.mem_singleton.1 hp
    cases h

/-- A section that starts is a section of the story. -/
lemma isSome_section? {made : Section} (h : .start made ∈ entriesOf dialect lexemes) :
    ((assemble dialect lexemes).story.section? made.id).isSome := by
  obtain ⟨parts, hs⟩ := mem_sectionsOf_start h
  rw [← laidOut_reading.1] at hs
  obtain ⟨s, hs, e⟩ := List.mem_map.1 hs
  have hid : s.laidOut.id = made.id := by
    rw [e]
  exact List.find?_isSome.2 ⟨s, hs, decide_eq_true hid⟩

/-- The story of a source connects its sections if no link of it is reported or leads out of it. -/
lemma connected_assemble
    (hwithin : ∀ l ∈ lexemes, ∀ target ∈ l.target?, target.head? = some '#')
    (hfound : ∀ x ∈ (assemble dialect lexemes).diagnostics, x.problem.isDangling = false) :
    (assemble dialect lexemes).story.Connected := by
  intro s hs part hp name hname
  rw [Part.linkTarget?_eq_map] at hname
  obtain ⟨target, htarget, rfl⟩ := Option.map_eq_some_iff.1 hname
  rw [← Part.target?_alone] at htarget
  obtain ⟨e, he, hpe⟩ := exists_entry_of_section hs hp
  obtain ⟨l, hl, source⟩ := exists_of_mem_entriesFrom he
  obtain ⟨written, hw, rfl⟩ := exists_target? source hpe htarget
  obtain ⟨name, rfl⟩ := List.head?_eq_some_iff.1 (hwithin l hl written hw)
  -- the target is noted, so that there is a heading with its name, which starts a section
  have tracks := @Draft.tracks_reading dialect lexemes
  have hnoted : .ofList ('#' :: name) ∈ (Draft.reading dialect lexemes).finishSection.noted := by
    rw [tracks.targets]
    exact List.mem_append_right _
      (List.mem_flatMap.2 ⟨e, he, List.mem_filterMap.2 ⟨part.alone, hpe, htarget⟩⟩)
  obtain ⟨⟨_, span⟩, hmem, rfl⟩ := List.mem_map.1 hnoted
  have hany := Draft.any_headings hfound hmem String.toList_ofList
  obtain ⟨heading, hheading, hname⟩ := List.any_eq_true.1 hany
  have hid : Part.targetName (.ofList ('#' :: name)) = heading.1 := by
    rw [Part.targetName, String.toList_ofList]
    exact (eq_of_beq hname).symm
  obtain hempty | ⟨made, hmade, e⟩ := tracks.headings heading hheading
  · cases hempty
  · rw [hid, ← e]
    exact isSome_section? hmade

end Stories

end Markup

namespace Part

mutual

/-- Reading a part shows no ways on but those of the part and of its branches. -/
lemma mem_read {part : Part} (hlink : part.isLink = true) :
    ∀ {sheet : Sheet} {g : Generator} {top : Part},
      part ∈ (top.read sheet g).parts → part ∈ top.preorder
  | _, _, header _, h => h
  | _, _, link _, h => h
  | _, _, image _, h => h
  | _, _, paragraph _ _, h => by
    obtain rfl := List.mem_singleton.1 h
    cases hlink
  | _, _, comment _, h => nomatch h
  | _, _, navigation _ _, h => h
  | sheet, g, condition c whenTrue whenFalse, h => by
    simp only [read] at h
    cases h with
    | head => cases hlink
    | tail _ h =>
      refine List.mem_cons_of_mem _ (List.mem_append.2 ?_)
      split at h
      · exact .inl (mem_readAll hlink h)
      · exact .inr (mem_readAll hlink h)
  | _, _, action _, h => by
    obtain rfl := List.mem_singleton.1 h
    cases hlink

/-- Reading parts shows no ways on but those of the parts and of their branches. -/
lemma mem_readAll {part : Part} (hlink : part.isLink = true) :
    ∀ {sheet : Sheet} {g : Generator} {parts : List Part},
      part ∈ (readAll sheet g parts).parts → part ∈ preorderAll parts
  | _, _, [], h => nomatch h
  | _, _, _ :: _, h => by
    cases List.mem_append.1 h with
    | inl h => exact List.mem_append_left _ (mem_read hlink h)
    | inr h => exact List.mem_append_right _ (mem_readAll hlink h)

end

variable {parts : List Part}

lemma isLink_of_linkTarget? {part : Part} {name} (h : part.linkTarget? = some name) :
    part.isLink = true := by
  cases part with
  | link l => rfl
  | navigation text target => rfl
  | _ => cases h

lemma exists_of_mem_choicesOf {choice} (h : choice ∈ choicesOf parts) :
    ∃ part ∈ parts, part.linkTarget? = some choice.target := by
  obtain ⟨part, hp, hc⟩ := List.mem_filterMap.1 h
  refine ⟨part, hp, ?_⟩
  rw [linkTarget?_eq, hc, Option.map_some]

lemma exists_of_onlyTarget? {name} (h : onlyTarget? parts = some name) :
    ∃ part ∈ parts, part.linkTarget? = some name := by
  have aim : name ∈ (choicesOf parts).map Choice.target := by
    rw [← aims_eq_map_choicesOf, Walk.onlyTarget?_eq_some_iff.1 h]
    exact List.mem_singleton_self name
  obtain ⟨choice, hc, rfl⟩ := List.mem_map.1 aim
  exact exists_of_mem_choicesOf hc

end Part

namespace Story.Connected

variable {story : Story} {revisits : Revisits} (h : story.Connected)

include h

/-- What a section shows leads to sections. -/
lemma resolve {id s state settings g} (hs : story.section? id = some s) :
    ∀ part ∈ (s.resolve state settings g).1.parts, ∀ name, part.linkTarget? = some name →
      (story.section? name).isSome := by
  intro part hp name hname
  have link := Part.isLink_of_linkTarget? hname
  exact h s (List.mem_of_find?_eq_some hs) part (Part.mem_readAll link hp) name hname

/-- The choices of a screen lead to sections. -/
lemma choices {depth visited id state g screen g' log}
    (trail : story.Trail revisits depth visited id state g screen g' log) :
    ∀ choice ∈ screen.choices, (story.section? choice.target).isSome := by
  induction trail with
  | spent => exact nofun
  | missing => exact nofun
  | @stay depth visited id state g s passage g' hs hread =>
    intro choice hc
    obtain ⟨part, hp, hname⟩ := Part.exists_of_mem_choicesOf hc
    have found := @resolve story h _ s state story.settings.state g hs
    rw [hread] at found
    exact found part hp _ hname
  | leave _ _ _ _ ih =>
    rw [choices_leaving]
    exact ih

/-- Where a step of a walk leads there is a section. -/
lemma step {w : Walk} {name} (hname : (w.step story revisits).next = some name) :
    (story.section? name).isSome := by
  cases hn : w.next with
  | none =>
    simp only [Walk.step, hn] at hname
    cases hname
  | some id =>
    cases hs : story.section? id with
    | none =>
      rw [Walk.step_missing hn hs] at hname
      cases hname
    | some s =>
      rw [Walk.step_found hn hs] at hname
      obtain ⟨part, hp, hpart⟩ := Part.exists_of_onlyTarget? (Walk.wayOn?_eq_some_iff.1 hname).1
      exact h.resolve hs part hp name hpart

/-- A walk never comes to a section that does not exist. -/
lemma run {n} {w : Walk} (hw : ∀ name, w.next = some name → (story.section? name).isSome) :
    ∀ name, (w.run story revisits n).next = some name → (story.section? name).isSome := by
  induction n generalizing w with
  | zero => exact hw
  | succ n ih => exact ih fun _ => h.step

end Story.Connected

namespace Session

variable {story : Story} {session : Session}

/-- Whether a session is in a section of a story and offers no choice but to go to others. -/
structure Ready (story : Story) (session : Session) : Prop where
  story_eq : session.story = story
  bookmark : ∀ b, session.bookmark = some b → (story.section? b.sectionId).isSome
  choices : ∀ choice ∈ session.choices, (story.section? choice.target).isSome

lemma Ready.fresh {config g} : (fresh story config g).Ready story :=
  ⟨rfl, nofun, nofun⟩

/-- Wherever a session enters a connected story, it is ready to go on. -/
lemma Ready.invariant (h : story.Connected) :
    Invariant (fun session => session.Ready story) fun _ => True where
  empty := trivial
  screen _ := trivial
  enter {session next id state} ready _ e := by
    obtain ⟨⟨s, hs⟩, rfl⟩ := enter_cases e
    rw [ready.story_eq] at hs
    refine ⟨ready.story_eq, ?_, ?_⟩
    · rintro _ ⟨⟩
      exact Option.isSome_iff_exists.2 ⟨s, hs⟩
    · rw [ready.story_eq]
      exact h.choices Story.trail_resolveNext

lemma ready_run (h : story.Connected) {config g opening first steps}
    (ho : Opening.session story config g opening = .ok first) :
    (first.run steps).Ready story := by
  have ready := Ready.invariant h
  refine ready.run ?_
  cases opening with
  | anew =>
    cases ho
    exact .fresh
  | resumed b => exact ready.enter .fresh trivial ho

/-- A choice of a session that is ready can be taken. -/
lemma Ready.choose (h : session.Ready story) {index} (hindex : index < session.choices.length) :
    ∃ next, session.choose index = .ok next := by
  have found := h.choices _ (List.getElem_mem hindex)
  obtain ⟨s, hs⟩ := Option.isSome_iff_exists.1 found
  have followed : session.choose index =
      session.enter session.choices[index].target session.screen.state := by
    rw [Session.choose, List.getElem?_eq_getElem hindex]
  rw [← h.story_eq] at hs
  exact ⟨_, followed.trans (enter_found hs)⟩

/--
Where no link is reported and none leads out of the story, every choice on every screen of every
play can be taken, and a screen never breaks off at a section that does not exist: the walk from the
section entered last, with any generator, only goes to sections of the story.
-/
theorem goes_on (dialect : Dialect) (lexemes : List Lexeme)
    (hwithin : ∀ l ∈ lexemes, ∀ target ∈ l.target?, target.head? = some '#')
    (hfound : ∀ x ∈ (assemble dialect lexemes).diagnostics, x.problem.isDangling = false)
    (config : Config) (g : Generator) (opening : Opening) (first : Session) (steps : List Step) :
    let story := (assemble dialect lexemes).story
    let session := first.run steps
    opening.session story config g = .ok first →
      (∀ index < session.choices.length, ∃ next, session.choose index = .ok next) ∧
        ∀ b, session.bookmark = some b → ∀ depth g name,
          (story.walk config.revisits depth b.sectionId b.state g).next = some name →
            (story.section? name).isSome := by
  intro story session ho
  have connected := connected_assemble hwithin hfound
  have ready := @ready_run _ connected config g opening first steps ho
  refine ⟨fun index => ready.choose, fun b hb depth g name => ?_⟩
  refine connected.run ?_ name
  rintro _ ⟨⟩
  exact ready.bookmark b hb

/-- A river with a ferry for those who can pay, and a path along the bank. -/
def riverBank : List Lexeme :=
  [⟨.heading 2 "Bank".toList none, ⟨0, 7⟩, false, false⟩,
    ⟨.code "2 > 1 \x7b".toList, ⟨9, 18⟩, false, false⟩,
    ⟨.link "Take the ferry".toList "#far-side".toList, ⟨20, 47⟩, false, true⟩,
    ⟨.code "\x7d".toList, ⟨49, 52⟩, false, false⟩,
    ⟨.link "Walk on".toList "#bank".toList, ⟨54, 70⟩, false, true⟩,
    ⟨.heading 2 "Far side".toList none, ⟨72, 83⟩, false, false⟩,
    ⟨.code "->[Back](#bank)".toList, ⟨85, 102⟩, false, false⟩]

/-- From the bank there are two choices, and the far side leads back to the bank. -/
theorem goes_on_riverBank :
    let story := (assemble .chapter riverBank).story
    (∀ l ∈ riverBank, ∀ target ∈ l.target?, target.head? = some '#') ∧
      (∀ x ∈ (assemble .chapter riverBank).diagnostics, x.problem.isDangling = false) ∧
      ∃ first, Opening.anew.session story {} (.ofSeed 1) = .ok first ∧
        (first.run [.start none]).choices.length = 2 ∧
        ∃ next, (first.run [.start none]).choose 0 = .ok next := by
  intro story
  have hwithin : ∀ l ∈ riverBank, ∀ target ∈ l.target?, target.head? = some '#' := by decide +kernel
  have hfound : ∀ x ∈ (assemble .chapter riverBank).diagnostics, x.problem.isDangling = false := by
    decide +kernel
  have two : ((fresh story {} (.ofSeed 1)).run [.start none]).choices.length = 2 := by
    decide +kernel
  have goes := goes_on .chapter riverBank hwithin hfound {} (.ofSeed 1) .anew
    (fresh story {} (.ofSeed 1)) [.start none] rfl
  exact ⟨hwithin, hfound, _, rfl, two, goes.1 0 (by rw [two]; decide)⟩

end Session

end Gamebook
