import Gamebook.Proofs.Assembly
import Gamebook.Proofs.StoryText

/-!
# Reading written stories

A plain story is read back from the document that is written of it, in both dialects and with or
without a flowchart. Main statement: `Story.parse_markdown`.
-/

namespace Gamebook

open Markup

namespace Markup

namespace Draft

variable {d : Draft}

/-- Gives a draft a title. -/
def entitle (title : String) (d : Draft) : Draft :=
  { d.finishSection with title := some title }

/-- Starts a section that has its content. -/
def begin (s : Section) (d : Draft) : Draft :=
  { d.finishSection with current := some s }

/-- Finishing a section does not depend on the notes. -/
lemma finishSection_bare : d.finishSection.bare = d.bare.finishSection := by
  obtain ⟨title, description, sections, current, paragraph, frame, headings, targets,
    diagnostics⟩ := d
  cases current <;> rfl

/-- Finishing a section closes neither a paragraph nor a condition. -/
lemma finishSection_free (h : d.Free) : d.finishSection.Free := by
  obtain ⟨title, description, sections, current, paragraph, frame, headings, targets,
    diagnostics⟩ := d
  cases current <;> exact h

/-- The heading of a section is only noted. -/
lemma noteHeading_bare {id span} : (d.noteHeading id span).bare = d.bare := by
  rw [noteHeading]
  split <;> rfl

/-- A heading closes nothing if nothing is open. -/
lemma heading_of_free {dialect level text anchor span} (h : d.Free) :
    d.heading dialect level text anchor span =
      if level = 1 then d.setTitle text span
      else if dialect.startsSection level then d.startSection dialect level text anchor span
      else d.emit (.header text) := by
  have hflush : d.flush.abandonFrame .heading = d := by
    rw [flush, h.1]
    simp only [abandonFrame, h.2]
  rw [heading, hflush]

/-- A heading of the first level gives a draft a title. -/
lemma setTitle_bare {text span} : (d.setTitle text span).bare = d.bare.entitle text := by
  have hreport : ∀ d : Draft, { d.finishSection with title := some text }.bare =
      d.bare.entitle text := by
    intro d
    rw [entitle, ← finishSection_bare]
    rfl
  rw [setTitle]
  split
  · exact hreport (d.report .secondTitle span)
  · exact hreport d

/-- A heading with an id starts a section. -/
lemma startSection_bare {dialect level} {id text : String} {span} (hid : id.toList ≠ []) :
    (d.startSection dialect level text (some id.toList) span).bare =
      d.bare.begin ⟨id, text, if level = 2 ∧ dialect = .chapter then [.header text] else []⟩ := by
  have hsection : sectionOf text (some id.toList) = ⟨id, text, []⟩ := by
    obtain ⟨c, cs, e⟩ := List.exists_cons_of_ne_nil hid
    have hid : String.ofList (c :: cs) = id := by
      rw [← e, String.ofList_toList]
    rw [e, sectionOf, hid]
    rfl
  have hnote := @noteHeading_bare d.finishSection id span
  rw [startSection, hsection, begin, ← finishSection_bare, ← hnote]
  rfl

/-- Content opens nothing where nothing is open. -/
lemma emitAll_free {parts} (h : d.Free) : (d.emitAll parts).Free := by
  induction parts generalizing d with
  | nil => exact h
  | cons part parts ih => exact ih ⟨emit_paragraph.trans h.1, emit_frame h.2⟩

/-- A section may start where nothing is open. -/
lemma begin_free {s : Section} (h : d.Free) : (d.begin s).Free :=
  finishSection_free h

/-- Sections that are started one after the other are the sections after those before them. -/
lemma finishSection_foldl {sections : List Section} :
    (sections.foldl (fun d s => d.begin s) d).finishSection =
      { d.finishSection with sections := d.finishSection.sections ++ sections } := by
  induction sections generalizing d with
  | nil =>
    rw [List.append_nil]
    rfl
  | cons s sections ih =>
    rw [List.foldl_cons, ih]
    obtain ⟨title, description, before, current, paragraph, frame, headings, targets,
      diagnostics⟩ := d
    cases current <;> simp [begin, finishSection]

end Draft

namespace Takes

variable {dialect : Dialect}

/-- A heading of the first level gives a draft a title. -/
lemma title {text : String} :
    Takes dialect Draft.Free [(.heading 1 text.toList none, none)] (Draft.entitle text) := by
  refine single (by rintro _ _ ⟨⟩) fun d l rest hd hl => ?_
  have hlexeme : d.lexeme dialect l rest = d.setTitle text l.span := by
    have hfree : d.Free := hd
    rw [Draft.lexeme, Lexeme.token_of_shown hl]
    simp only [Draft.heading_of_free hfree, String.ofList_toList, if_true]
  have hparagraph : (d.setTitle text l.span).bare.paragraph = none := by
    rw [Draft.setTitle_bare]
    exact (Draft.finishSection_free hd).1
  rw [hlexeme]
  exact ⟨Draft.setTitle_bare, hparagraph⟩

/-- The heading of a section starts it with the parts that the heading stands for. -/
lemma sectionHeading {level} {id text : String} (hid : id.toList ≠ []) (hlevel : level ≠ 1)
    (hstarts : dialect.startsSection level = true) :
    Takes dialect Draft.Free [(.heading level text.toList (some id.toList), none)]
      (Draft.begin ⟨id, text, if level = 2 ∧ dialect = .chapter then [.header text] else []⟩) := by
  refine single (by rintro _ _ ⟨⟩) fun d l rest hd hl => ?_
  have hlexeme : d.lexeme dialect l rest =
      d.startSection dialect level text (some id.toList) l.span := by
    have hfree : d.Free := hd
    rw [Draft.lexeme, Lexeme.token_of_shown hl]
    simp only [Draft.heading_of_free hfree, String.ofList_toList, if_neg hlevel, hstarts, if_true]
  have hparagraph :
      (d.startSection dialect level text (some id.toList) l.span).bare.paragraph = none := by
    rw [Draft.startSection_bare hid]
    exact (Draft.begin_free hd).1
  rw [hlexeme]
  exact ⟨Draft.startSection_bare hid, hparagraph⟩

end Takes

end Markup

/-- The heading of a section and the parts after it make up the section. -/
lemma Section.outlined_cases {dialect} {s : Section} :
    (s.outlined dialect = (3, s.parts)) ∨
      (dialect = .chapter ∧ ∃ parts, s.outlined dialect = (2, parts) ∧
        s.parts = .header s.heading :: parts) := by
  cases e : s.shownParts? dialect with
  | none => exact .inl (by rw [outlined, e])
  | some parts =>
    have houtlined : s.outlined dialect = (2, parts) := by
      rw [outlined, e]
    unfold shownParts? at e
    split at e
    · next text parts' hparts =>
      split at e
      · next heq =>
        obtain rfl := Option.some.inj e
        exact .inr ⟨rfl, parts', houtlined, by rw [hparts, heq]⟩
      · cases e
    · cases e

/-- A plain section is started with its content. -/
lemma Section.takes {dialect} {s : Section} (h : s.isPlain dialect = true) :
    Takes dialect Draft.Free (s.shown dialect) (Draft.begin s) := by
  have hparts := Takes.parts (Section.all_outlined h)
  rw [isPlain, Bool.and_eq_true, Bool.and_eq_true] at h
  have hid := (Text.plain_of_isName h.1.1).ne
  -- what is added to a section that starts with some parts comes after these parts
  have hadd : ∀ {d : Draft} {first}, d.Free → (d.begin ⟨s.id, s.heading, first⟩).emitAll
      (s.outlined dialect).2 = d.begin ⟨s.id, s.heading, first ++ (s.outlined dialect).2⟩ :=
    fun hd => Draft.emitAll_current (Draft.begin_free hd).2 rfl
  have hheading : Takes dialect Draft.Free
      [(.heading (s.outlined dialect).1 s.heading.toList (some s.id.toList), none)]
      (Draft.begin ⟨s.id, s.heading,
        if (s.outlined dialect).1 = 2 ∧ dialect = .chapter then [.header s.heading] else []⟩) := by
    obtain e | ⟨rfl, parts, e, -⟩ := @outlined_cases dialect s <;> rw [e]
    · exact .sectionHeading hid (by simp) (by cases dialect <;> rfl)
    · exact .sectionHeading hid (by simp) rfl
  have hall := hheading.append hparts fun d hd => Draft.begin_free hd
  intro d ls rest hd hls
  obtain ⟨d', e, hd'⟩ := hall d ls rest hd hls
  refine ⟨d', e, ?_⟩
  rw [hd', Function.comp, hadd hd]
  have hsection : ∀ {first}, first ++ (s.outlined dialect).2 = s.parts →
      (⟨s.id, s.heading, first ++ (s.outlined dialect).2⟩ : Section) = s := by
    intro first hfirst
    rw [hfirst]
  rw [hsection]
  obtain e | ⟨rfl, parts, e, hs⟩ := @outlined_cases dialect s
  · rw [e]
    rfl
  · rw [e, hs]
    rfl

namespace Story

variable {dialect : Dialect} {story : Story}

/-- Plain sections are added in order. -/
lemma takes_sections {sections : List Section} (h : sections.all (·.isPlain dialect) = true) :
    Takes dialect Draft.Free (sections.flatMap (·.shown dialect))
      (fun d => sections.foldl (fun d s => d.begin s) d) := by
  induction sections with
  | nil => exact .nil
  | cons s sections ih =>
    rw [List.all_cons, Bool.and_eq_true] at h
    rw [List.flatMap_cons]
    exact (Section.takes h.1).append (ih h.2) fun d hd => Draft.begin_free hd

/-- The draft of the title. -/
def titled (story : Story) (d : Draft) : Draft :=
  if story.title = "" then d else d.entitle story.title

/-- The title is taken. -/
lemma takes_title : Takes dialect Draft.Free story.titleShown story.titled := by
  unfold titleShown titled
  split
  · exact .nil
  · exact .title

/-- The action that the settings are read as. -/
def settingsParts (story : Story) : List Part :=
  if story.settings.isEmpty then [] else [.action story.settings]

/-- The settings are added as an action. -/
lemma takes_settings (h : story.settings.isPlain = true) :
    Takes dialect Draft.Free story.settingsShown (Draft.emitAll story.settingsParts) := by
  unfold settingsShown settingsParts
  split
  · exact .nil
  · exact (@Takes.simple dialect (.action story.settings) h).imp fun _ hd => hd.1

/-- The draft that a story is read as, after what is read before it. -/
def drafted (story : Story) (d : Draft) : Draft :=
  story.sections.foldl (fun d s => d.begin s)
    (((story.titled d).emitAll story.settingsParts).emitAll story.description)

/-- The title opens nothing. -/
lemma titled_free {d : Draft} (h : d.Free) : (story.titled d).Free := by
  rw [titled]
  split
  · exact h
  · exact Draft.finishSection_free h

/-- A story opens nothing. -/
lemma drafted_free {d : Draft} (h : d.Free) : (story.drafted d).Free := by
  have hsections : ∀ {sections : List Section} {d : Draft}, d.Free →
      (sections.foldl (fun d s => d.begin s) d).Free := by
    intro sections
    induction sections with
    | nil => exact id
    | cons s sections ih => exact fun hd => ih (Draft.begin_free hd)
  exact hsections (Draft.emitAll_free (Draft.emitAll_free (titled_free h)))

/-- A plain story is put together from its tokens. -/
lemma takes_shown (h : story.isPlain dialect = true) :
    Takes dialect Draft.Free (story.shown dialect) story.drafted := by
  simp only [isPlain, Bool.and_eq_true] at h
  obtain ⟨⟨⟨⟨⟨-, hdescription⟩, hsettings⟩, -⟩, hsections⟩, -⟩ := h
  exact ((takes_title.append (takes_settings hsettings) fun d hd => titled_free hd).append
    (.parts hdescription) fun d hd => Draft.emitAll_free (titled_free hd)).append
      (takes_sections hsections) fun d hd =>
        Draft.emitAll_free (Draft.emitAll_free (titled_free hd))

/-- The draft of a whole story has its content. -/
lemma drafted_empty :
    (story.drafted .empty).finishSection =
      { Draft.empty with
        title := if story.title = "" then none else some story.title
        description := story.settingsParts ++ story.description
        sections := story.sections } := by
  have htitled : story.titled .empty =
      { Draft.empty with title := if story.title = "" then none else some story.title } := by
    rw [titled]
    split <;> rfl
  have hparts : ((story.titled .empty).emitAll story.settingsParts).emitAll story.description =
      { Draft.empty with
        title := if story.title = "" then none else some story.title
        description := story.settingsParts ++ story.description } := by
    rw [Draft.emitAll, Draft.emitAll, ← List.foldl_append, ← Draft.emitAll, htitled,
      Draft.emitAll_description rfl rfl]
    rfl
  rw [drafted, Draft.finishSection_foldl, hparts]
  rfl

/-- Parts without an action hold no settings. -/
lemma takeAction_of_none {parts : List Part} (h : parts.any Part.isAction = false) :
    takeAction parts = (none, parts) := by
  induction parts with
  | nil => rfl
  | cons part parts ih =>
    rw [List.any_cons, Bool.or_eq_false_iff] at h
    cases part with
    | action a => cases h.1
    | _ => simp only [takeAction, ih h.2]

/-- Plain settings without content are those of a story that sets nothing. -/
lemma settings_of_isEmpty {a : Action} (h : a.isPlain = true) (hempty : a.isEmpty = true) :
    a = .setting .empty := by
  obtain ⟨⟨tree, distinct⟩, audit, source, error⟩ := a
  simp only [Action.isPlain, Bool.and_eq_true, Option.isNone_iff_eq_none] at h
  obtain ⟨⟨⟨-, rfl⟩, rfl⟩, rfl⟩ := h
  simp only [Action.isEmpty, State.isEmpty, Bool.and_eq_true, beq_iff_eq] at hempty
  cases tree with
  | nil => rfl
  | leaf key value rest => cases hempty.1.1
  | table key sub rest => cases hempty.1.1

/-- The settings are the first action of what is read before the sections. -/
lemma takeAction_settings (h : story.isPlain dialect = true) :
    ∃ action, takeAction (story.settingsParts ++ story.description) = (action, story.description) ∧
      action.getD (.setting .empty) = story.settings := by
  simp only [isPlain, Bool.and_eq_true] at h
  obtain ⟨⟨⟨⟨-, hsettings⟩, haction⟩, -⟩, -⟩ := h
  rw [settingsParts]
  cases hempty : story.settings.isEmpty with
  | false => exact ⟨_, rfl, rfl⟩
  | true =>
    rw [hempty] at haction
    have hnone : story.description.any Part.isAction = false := by simpa using haction
    exact ⟨none, takeAction_of_none hnone, (settings_of_isEmpty hsettings hempty).symm⟩

/-- A plain story is put together from lexemes that show its tokens, with at most a break after
them. -/
lemma assemble_shown {ls : List Lexeme} (h : story.isPlain dialect = true)
    (hls : ls.map Lexeme.shown = story.shown dialect ∨
      ls.map Lexeme.shown = story.shown dialect ++ [(.break, none)]) :
    (assemble dialect ls).story = story := by
  have htakes := @takes_shown dialect story h
  obtain ⟨d, e, hd⟩ : ∃ d : Draft, Draft.empty.lexemes dialect ls = d ∧
      d.bare = story.drafted .empty := by
    obtain hls | hls := hls
    · obtain ⟨d, e, hd⟩ := htakes .empty ls [] ⟨rfl, rfl⟩ hls
      rw [List.append_nil, Draft.lexemes] at e
      exact ⟨d, e, hd⟩
    · have hpause := htakes.append (.pause fun _ hd => hd.1) fun d hd => drafted_free hd
      obtain ⟨d, e, hd⟩ := hpause .empty ls [] ⟨rfl, rfl⟩ hls
      rw [List.append_nil, Draft.lexemes] at e
      exact ⟨d, e, hd⟩
  have hfree : d.bare.Free := by
    rw [hd]
    exact drafted_free ⟨rfl, rfl⟩
  -- nothing is open at the end, so only the last section is finished and the links are checked
  have hclose : d.close = d.finishSection.checkLinks := by
    have hparagraph : d.paragraph = none := hfree.1
    have hframe : d.frame = none := hfree.2
    rw [Draft.close, Draft.flush, hparagraph]
    simp only [Draft.abandonFrame, hframe]
  have hfinish : d.finishSection.bare = (story.drafted .empty).finishSection := by
    rw [Draft.finishSection_bare, hd]
  rw [drafted_empty] at hfinish
  have htitle : d.close.title = if story.title = "" then none else some story.title := by
    rw [hclose]
    exact congrArg Draft.title hfinish
  have hdescription : d.close.description = story.settingsParts ++ story.description := by
    rw [hclose]
    exact congrArg Draft.description hfinish
  have hsections : d.close.sections = story.sections := by
    rw [hclose]
    exact congrArg Draft.sections hfinish
  obtain ⟨action, htake, haction⟩ := takeAction_settings h
  rw [assemble, e, Draft.finish]
  simp only [hdescription, htake, haction, htitle, hsections]
  have himages : story.images = sectionImages story.sections := by
    simp only [isPlain, Bool.and_eq_true, decide_eq_true_eq] at h
    exact h.2
  have hgetD : (if story.title = "" then none else some story.title).getD "" = story.title := by
    split
    · next htitle => exact htitle.symm
    · rfl
  rw [hgetD, indexImages, ← himages]

/-- A plain story is read back from its document, in both dialects, with or without a flowchart. -/
theorem parse_markdown {withFlowchart} (h : story.isPlain dialect = true) :
    (parse dialect (story.markdown dialect withFlowchart)).story = story :=
  assemble_shown h (lexemesOf_markdown h)

/-- A story of two rooms, where a light shows the way out. -/
def lightInTheHall : Story where
  title := "the cave"
  description := [.paragraph "a story" (some .citation), .comment "to be continued"]
  settings := .setting (.insert .empty "light" (.scalar (.number 2)))
  sections :=
    [⟨"hall1", "in the hall",
      [.header "in the hall", .image ⟨"a lamp", some "lamp", some "of brass"⟩,
        .condition ⟨"\x7blight\x7d > 1", none, none, none⟩
          [.link ⟨"go on", "#outside", none⟩, .link ⟨"wait", "hall1", none⟩]
          [.navigation "back" "hall1"]]⟩,
      ⟨"outside", "the end", [.action (.setting .empty)]⟩]
  images := [⟨"a lamp", some "lamp", some "of brass"⟩]

/-- The story of two rooms is read back as chapters with a flowchart. -/
theorem parse_lightInTheHall :
    lightInTheHall.isPlain .chapter = true ∧
      (parse .chapter (lightInTheHall.markdown .chapter true)).story = lightInTheHall := by
  have h : lightInTheHall.isPlain .chapter = true := by
    decide +kernel
  exact ⟨h, parse_markdown h⟩

end Story

end Gamebook
