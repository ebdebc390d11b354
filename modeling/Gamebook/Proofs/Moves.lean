import Gamebook.Proofs.Assembly
import Gamebook.Proofs.Entries
import Gamebook.Proofs.Notes

/-!
# Moves

All that reading can do to a draft, one move at a time. A move is labelled with the entry that it
adds; giving up an open condition and asides add none. Main definitions: `Draft.Move`,
`Draft.Moves`.
Main statements: `Draft.moves_lexemes`, so that the labels of the moves are the entries of the
lexemes, and `Draft.Moves.keeps`, by which what every move keeps holds in the end.
-/

namespace Gamebook

open Markup

namespace Part

/-- Whether a part is a header. -/
def isHeader : Part → Bool
  | header _ => true
  | _ => false

/-- Whether a part holds no other parts. -/
def isFlat : Part → Bool
  | condition _ whenTrue whenFalse => whenTrue.isEmpty && whenFalse.isEmpty
  | _ => true

/-- Whether a part is one that branches hold: no header, and no condition but code that is kept. -/
def Inner (part : Part) : Prop :=
  part.isHeader = false ∧
    (part.isCondition = true → ∃ code, Marker.ofCode code = .plain ∧ part = keptCode code)

lemma inner_of_alone {part : Part} (hheader : part.isHeader = false)
    (hcondition : part.isCondition = false) : part.Inner := by
  refine ⟨hheader, fun h => ?_⟩
  rw [hcondition] at h
  cases h

lemma inner_of_plain {code} (hm : Marker.ofCode code = .plain) : (keptCode code).Inner :=
  ⟨rfl, fun _ => ⟨code, hm, rfl⟩⟩

end Part

namespace Markup.Draft

/-- One change of a draft that has no open paragraph, with the entry that it adds. -/
inductive Move : Draft → List Entry → Draft → Prop where
  | content {d e part span} :
    e.content? = some part → part.isFlat = true → d.frame = none ∨ part.Inner →
    Move d [e] ((d.note part span).emit part)
  | opening {d c span} :
    d.frame = none →
    Move d [.opening c] { d.note (.condition c [] []) span with frame := some (.start c span) }
  | otherwise {d frame} :
    d.frame = some frame →
    Move d [.otherwise] { d with frame := some { frame with inElse := true } }
  | closing {d frame} : d.frame = some frame → Move d [.closing] d.closeFrame
  | abandon {d where_ frame} :
    d.frame = some frame → Move d [] (d.report (.unclosed where_) frame.span).closeFrame
  | aside {d problem span} :
    problem.isFault = false → problem.isUnclosed = false → Move d [] (d.report problem span)
  | title {d text} : d.frame = none → Move d [.title] { d.finishSection with title := some text }
  | start {d dialect level text anchor headings} :
    d.frame = none →
    (∀ heading ∈ headings,
      heading ∈ d.headings ∨ heading.1 = (startOf dialect level text anchor).id) →
    Move d [.start (startOf dialect level text anchor)]
      { d.finishSection with
        headings := headings
        current := some (startOf dialect level text anchor) }

/-- Changes one after the other, with the entries that they add. -/
inductive Moves : Draft → List Entry → Draft → Prop where
  | refl {d} : Moves d [] d
  | head {d es d' es' d''} : Move d es d' → Moves d' es' d'' → Moves d (es ++ es') d''

variable {d d' d'' : Draft} {dialect : Dialect} {l : Lexeme} {rest : List Lexeme} {span : Span}
  {code : List Char}

namespace Moves

lemma single {es} (h : Move d es d') : Moves d es d' := by
  have one := head h refl
  rwa [List.append_nil] at one

lemma trans {es es'} (h : Moves d es d') (h' : Moves d' es' d'') : Moves d (es ++ es') d'' := by
  induction h with
  | refl => exact h'
  | head first _ ih =>
    rw [List.append_assoc]
    exact head first (ih h')

/-- What every move keeps holds after moves if it holds before. -/
lemma keeps {p : Draft → Prop} {es} (step : ∀ {d es d'}, Move d es d' → p d → p d')
    (h : Moves d es d') (hp : p d) : p d' := by
  induction h with
  | refl => exact hp
  | head first _ ih => exact ih (step first hp)

end Moves

section Frame

lemma isSome_frame_emit {part} : (d.emit part).frame.isSome = d.frame.isSome := by
  obtain ⟨title, description, sections, current, paragraph, frame, headings, targets,
    diagnostics⟩ := d
  cases frame with
  | none => exact congrArg Option.isSome (emit_frame rfl)
  | some frame => rfl

lemma frame_note {part} : (d.note part span).frame = d.frame := by
  obtain ⟨targets, diagnostics, e⟩ := @note_eq d part span
  rw [e]

lemma frame_closeFrame : d.closeFrame.frame = none := by
  rw [closeFrame]
  cases hf : d.frame with
  | none => exact hf
  | some frame => exact emit_frame rfl

lemma frame_abandonFrame {where_} : (d.abandonFrame where_).frame = none := by
  rw [abandonFrame]
  cases hf : d.frame with
  | none => exact hf
  | some frame => exact frame_closeFrame

lemma frame_finishSection : d.finishSection.frame = d.frame := by
  rw [finishSection]
  cases d.current with
  | none => rfl
  | some s => rfl

lemma isSome_frame_openFrame {expression} : (d.openFrame code expression span).frame.isSome := by
  cases expression <;> rfl

lemma isSome_frame_fence {content} : (d.fence content span).frame.isSome = d.frame.isSome := by
  rw [fence]
  split
  · exact isSome_frame_emit
  · exact isSome_frame_emit

lemma isSome_frame_stray : (d.stray code span).frame.isSome = d.frame.isSome :=
  isSome_frame_emit

lemma isSome_frame_enterElse {frame} (h : d.frame = some frame) :
    (d.enterElse code span).frame.isSome := by
  simp only [enterElse, h]
  split <;> rfl

lemma frame_setTitle {text} : (d.setTitle text span).frame = d.frame := by
  rw [setTitle]
  split
  · exact frame_finishSection
  · exact frame_finishSection

lemma frame_startSection {level text anchor} :
    (d.startSection dialect level text anchor span).frame = d.frame := by
  rw [startSection, noteHeading]
  split
  · exact frame_finishSection
  · exact frame_finishSection

end Frame

section Paragraphs

lemma flush_of_none (hd : d.paragraph = none) : d.flush = d := by
  rw [flush, hd]

lemma paragraph_closeFrame : d.closeFrame.paragraph = d.paragraph := by
  rw [closeFrame]
  cases d.frame with
  | none => rfl
  | some frame => exact emit_paragraph

lemma paragraph_finishSection : d.finishSection.paragraph = d.paragraph := by
  rw [finishSection]
  cases d.current with
  | none => rfl
  | some s => rfl

lemma paragraph_note {part} : (d.note part span).paragraph = d.paragraph := by
  obtain ⟨targets, diagnostics, e⟩ := @note_eq d part span
  rw [e]

/-- No move opens a paragraph. -/
lemma Move.paragraph {es} (h : Move d es d') (hd : d.paragraph = none) : d'.paragraph = none := by
  cases h with
  | content => exact emit_paragraph.trans (paragraph_note.trans hd)
  | opening => exact paragraph_note.trans hd
  | otherwise => exact hd
  | closing => exact paragraph_closeFrame.trans hd
  | abandon => exact paragraph_closeFrame.trans hd
  | aside => exact hd
  | title => exact paragraph_finishSection.trans hd
  | start => exact paragraph_finishSection.trans hd

lemma Moves.paragraph {es} (h : Moves d es d') (hd : d.paragraph = none) : d'.paragraph = none :=
  @h.keeps _ _ (fun d => d.paragraph = none) _ (fun first hd => first.paragraph hd) hd

end Paragraphs

section Markers

/-- Content that is neither a header nor a condition may come anywhere. -/
lemma moves_alone {part} (span : Span) (hheader : part.isHeader = false)
    (hcondition : part.isCondition = false) :
    Moves d [.part part] ((d.note part span).emit part) := by
  have flat : part.isFlat = true := by
    cases part with
    | condition c whenTrue whenFalse => cases hcondition
    | _ => rfl
  exact .single (.content rfl flat (.inr (Part.inner_of_alone hheader hcondition)))

/-- Code that is kept is noted by what it means. -/
lemma note_keptCode :
    d.note (keptCode code) span = d.report ((Marker.ofCode code).fault (.ofList code)) span := by
  rw [note, Part.fault?_keptCode]
  rfl

lemma moves_abandonFrame {where_} : Moves d [] (d.abandonFrame where_) := by
  rw [abandonFrame]
  cases hf : d.frame with
  | none => exact .refl
  | some frame => exact .single (.abandon hf)

/-- A condition may be given up before it is left to the code after it. -/
lemma moves_closeLast :
    Moves d [] (d.closeLast rest) ∧
      (d.closeLast rest).frame.isSome = (d.frame.isSome && canClose rest) := by
  have given : Moves d [] (d.abandonFrame .lastCode) := moves_abandonFrame
  have gone : (d.abandonFrame .lastCode).frame.isSome = false :=
    congrArg Option.isSome frame_abandonFrame
  rw [closeLast, canClose]
  cases nextCode? rest with
  | none => exact ⟨given, by rw [gone, Option.any_none, Bool.and_false]⟩
  | some code =>
    simp only [Option.any_some]
    cases startsCondition code with
    | true => exact ⟨given, by rw [if_pos rfl, gone, Bool.not_true, Bool.and_false]⟩
    | false => exact ⟨.refl, by rw [if_neg Bool.false_ne_true, Bool.not_false, Bool.and_true]⟩

lemma moves_stray (hf : d.frame = none)
    (hm : Marker.ofCode code = .otherwise ∨ Marker.ofCode code = .closing) :
    Moves d [.kept code span] (d.stray code span) := by
  have kept : Move d [.kept code span] ((d.note (keptCode code) span).emit (keptCode code)) :=
    .content rfl rfl (.inl hf)
  rw [note_keptCode] at kept
  obtain hm | hm := hm
  · rw [hm] at kept
    exact .single kept
  · rw [hm] at kept
    exact .single kept

lemma moves_plain (hm : Marker.ofCode code = .plain) :
    Moves d [.kept code span] ((d.report .noMarker span).emit (keptCode code)) := by
  have kept : Move d [.kept code span] ((d.note (keptCode code) span).emit (keptCode code)) :=
    .content rfl rfl (.inr (Part.inner_of_plain hm))
  rw [note_keptCode, hm] at kept
  exact .single kept

/-- An open condition is given up before the next one is started. -/
lemma moves_openFrame {expression} (hm : Marker.ofCode code = .opening expression) :
    Moves d [.opening (openingOf code expression)] (d.openFrame code expression span) := by
  have given : Moves d [] (d.abandonFrame .condition) := moves_abandonFrame
  have opened := @Move.opening _ (openingOf code expression) span
    (@frame_abandonFrame d .condition)
  refine given.trans (.single ?_)
  cases expression with
  | nil =>
    -- without an expression, what is noted is that of the code
    have noted : (d.abandonFrame .condition).note (.condition (openingOf code []) [] []) span =
        (d.abandonFrame .condition).report ((Marker.ofCode code).fault (.ofList code)) span :=
      note_keptCode
    rw [noted, hm] at opened
    exact opened
  | cons c cs => exact opened

lemma moves_enterElse {frame} (hf : d.frame = some frame) :
    Moves d [.otherwise] (d.enterElse code span) := by
  simp only [enterElse, hf]
  split
  · exact (Moves.single (.otherwise hf)).trans (.single (.aside rfl rfl))
  · exact .single (.otherwise hf)

/-- Code is one move, before and after which an open condition may be given up. -/
lemma moves_code :
    Moves d [codeEntry d.frame.isSome code span] (d.code code span rest) ∧
      (d.code code span rest).frame.isSome = codeLeavesOpen d.frame.isSome code rest := by
  rw [codeEntry, Draft.code, codeLeavesOpen]
  cases hm : Marker.ofCode code with
  | navigation text target => exact ⟨moves_alone span rfl rfl, isSome_frame_emit⟩
  | opening expression =>
    obtain ⟨closed, frame⟩ := @moves_closeLast (d.openFrame code expression span) rest
    refine ⟨(moves_openFrame hm).trans closed, ?_⟩
    rw [frame, isSome_frame_openFrame, Bool.true_and]
  | otherwise =>
    obtain ⟨closed, frame⟩ := @moves_closeLast (d.enterElse code span) rest
    cases hf : d.frame with
    | none =>
      have e : d.enterElse code span = d.stray code span := by
        rw [enterElse, hf]
      rw [e] at closed frame ⊢
      refine ⟨(moves_stray hf (.inl hm)).trans closed, ?_⟩
      rw [frame, isSome_frame_stray, hf]
    | some open_ =>
      refine ⟨(moves_enterElse hf).trans closed, ?_⟩
      rw [frame, isSome_frame_enterElse hf, Option.isSome_some]
  | closing =>
    cases hf : d.frame with
    | none =>
      refine ⟨moves_stray hf (.inr hm), ?_⟩
      exact isSome_frame_stray.trans (congrArg Option.isSome hf)
    | some open_ => exact ⟨.single (.closing hf), congrArg Option.isSome frame_closeFrame⟩
  | plain =>
    obtain ⟨closed, frame⟩ :=
      @moves_closeLast ((d.report .noMarker span).emit (keptCode code)) rest
    refine ⟨(moves_plain hm).trans closed, ?_⟩
    rw [frame, isSome_frame_emit]
    rfl

end Markers

section Headings

lemma moves_setTitle {text} (hf : d.frame = none) :
    Moves d [.title] (d.setTitle text span) := by
  rw [setTitle]
  split
  · have titled := @Move.title (d.report .secondTitle span) text hf
    exact (Moves.single (.aside rfl rfl)).trans (.single titled)
  · exact .single (.title hf)

lemma finishSection_report {problem} :
    (d.report problem span).finishSection = d.finishSection.report problem span := by
  obtain ⟨title, description, sections, current, paragraph, frame, headings, targets,
    diagnostics⟩ := d
  cases current <;> rfl

/-- The heading of a section is noted unless there is one with the same id. -/
lemma moves_startSection {level text anchor} (hf : d.frame = none) :
    Moves d [.start (startOf dialect level text anchor)]
      (d.startSection dialect level text anchor span) := by
  have kept : d.finishSection.headings = d.headings := congrArg (·.1) notes_finishSection
  rw [startSection, noteHeading]
  split
  · next id first _ =>
    have started := @Move.start (d.report (.sameId (sectionOf text anchor).id first) span) dialect
      level text anchor d.headings hf fun _ => .inl
    rw [finishSection_report, ← kept] at started
    exact (Moves.single (.aside rfl rfl)).trans (.single started)
  · have started := @Move.start d dialect level text anchor
      (d.headings ++ [((sectionOf text anchor).id, span)]) hf fun heading h =>
        (List.mem_append.1 h).imp_right fun h => congrArg Prod.fst (List.mem_singleton.1 h)
    rw [← kept] at started
    exact .single started

/-- An open condition is given up before a heading is read. -/
lemma moves_heading {level text anchor} (hd : d.paragraph = none) :
    Moves d [headingEntry dialect level text anchor] (d.heading dialect level text anchor span) ∧
      (d.heading dialect level text anchor span).frame = none := by
  have given : Moves d [] (d.abandonFrame .heading) := moves_abandonFrame
  have hf : (d.abandonFrame .heading).frame = none := frame_abandonFrame
  rw [heading, flush_of_none hd, headingEntry]
  by_cases title : level = 1
  · simp only [if_pos title]
    exact ⟨given.trans (moves_setTitle hf), frame_setTitle.trans hf⟩
  · simp only [if_neg title]
    cases starts : dialect.startsSection level with
    | true => exact ⟨given.trans (moves_startSection hf), frame_startSection.trans hf⟩
    | false =>
      have shown : Move (d.abandonFrame .heading) [.part (.header text)]
          (((d.abandonFrame .heading).note (.header text) span).emit (.header text)) :=
        .content rfl rfl (.inl hf)
      exact ⟨given.trans (.single shown), emit_frame hf⟩

end Headings

section Lexemes

/-- A block is noted if it is no state. -/
lemma moves_fence {content} :
    Moves d [.part (.action (actionOf content))] (d.fence content span) := by
  have acted := @moves_alone d (.action (actionOf content)) span rfl rfl
  rw [note, Part.fault?] at acted
  rw [fence]
  cases he : (actionOf content).error with
  | none =>
    rw [he] at acted
    exact acted
  | some message =>
    rw [he] at acted
    exact acted

lemma moves_lexeme {before} (hd : d.paragraph = none) (hl : l.token.isRunning = false)
    (himage : l.token.isImage = true → commentAhead? rest = none)
    (hcomment : ∀ text, l.token = .comment text → before.any Token.isImage = false) :
    Moves d (entryOf? dialect before d.frame.isSome l rest).toList (d.lexeme dialect l rest) ∧
      (d.lexeme dialect l rest).frame.isSome = leavesOpen d.frame.isSome l rest := by
  obtain ⟨token, span, quoted, listed⟩ := l
  cases token with
  | heading level text anchor =>
    obtain ⟨moves, frame⟩ := @moves_heading d dialect span level (.ofList text) anchor hd
    exact ⟨moves, congrArg Option.isSome frame⟩
  | text text => cases hl
  | softBreak => cases hl
  | «break» => exact ⟨.refl, rfl⟩
  | image alt url =>
    simp only [entryOf?, himage rfl]
    exact ⟨moves_alone span rfl rfl, isSome_frame_emit⟩
  | link text href => exact ⟨moves_alone span rfl rfl, isSome_frame_emit⟩
  | code code => exact moves_code
  | fence info content => exact ⟨moves_fence, isSome_frame_fence⟩
  | comment text =>
    simp only [entryOf?, hcomment text rfl]
    exact ⟨moves_alone span rfl rfl, isSome_frame_emit⟩

end Lexemes

section Runs

variable {run : List Lexeme}

lemma isRunning_head : continuesParagraph (l :: rest) = l.token.isRunning := by
  obtain ⟨token, span, quoted, listed⟩ := l
  cases token <;> rfl

lemma startsWithText_append (h : continuesParagraph rest = false) :
    startsWithText (run ++ rest) = startsWithText run := by
  cases run with
  | nil =>
    cases rest with
    | nil => rfl
    | cons l rest =>
      obtain ⟨token, span, quoted, listed⟩ := l
      cases token with
      | text text => cases h
      | _ => rfl
  | cons l run =>
    obtain ⟨token, span, quoted, listed⟩ := l
    cases token <;> rfl

/-- Adds the paragraph that a run makes up. -/
def addRun (run : List Lexeme) (d : Draft) : Draft :=
  (paragraphOf? run).elim d fun part => d.emit part

lemma isSome_frame_addRun : (d.addRun run).frame.isSome = d.frame.isSome := by
  rw [addRun]
  cases paragraphOf? run with
  | none => rfl
  | some part => exact isSome_frame_emit

lemma moves_addRun : Moves d ((paragraphOf? run).map .part).toList (d.addRun run) := by
  rw [addRun]
  cases hp : paragraphOf? run with
  | none => exact .refl
  | some part =>
    obtain ⟨-, rfl⟩ := paragraph?_eq_some hp
    -- nothing is noted of a paragraph, wherever it is
    exact moves_alone ⟨0, 0⟩ rfl rfl

lemma lexemes_running (hl : l.token.isRunning = true) :
    d.lexemes dialect (l :: rest) =
      ((d.lexeme dialect l rest).settle rest).lexemes dialect rest := by
  refine lexemes_cons (.inl fun alt url e => ?_)
  rw [e] at hl
  cases hl

lemma addText_open {p text quoting} (hd : d.paragraph = some p) :
    d.addText text quoting = { d with paragraph := some ⟨p.text ++ text, p.quoting⟩ } := by
  rw [addText, hd]

lemma addText_first {text quoting} (hd : d.paragraph = none) :
    d.addText text quoting = { d with paragraph := some ⟨text, quoting⟩ } := by
  rw [addText, hd]

lemma softBreak_open {p} (hd : d.paragraph = some p) :
    d.softBreak rest =
      if startsWithText rest then { d with paragraph := some ⟨p.text ++ ['\n'], p.quoting⟩ }
      else d := by
  rw [softBreak, hd]

lemma softBreak_first (hd : d.paragraph = none) : d.softBreak rest = d := by
  rw [softBreak, hd]

/-- An open paragraph takes the text of a run and is finished after it. -/
lemma lexemes_run_open {p : OpenParagraph} (hrun : ∀ l ∈ run, l.token.isRunning = true)
    (hrest : continuesParagraph rest = false) (hd : d.paragraph = some p) :
    (d.settle (run ++ rest)).lexemes dialect (run ++ rest) =
      ({ d with paragraph := some ⟨p.text ++ runText run, p.quoting⟩ }.flush).lexemes dialect
        rest := by
  induction run generalizing d p with
  | nil =>
    -- the run is over: the paragraph is finished before what comes next is read
    have e : { d with paragraph := some ⟨p.text ++ runText [], p.quoting⟩ } = d := by
      rw [runText, List.append_nil, ← hd]
    rw [e, List.nil_append, settle, if_neg (by rw [hrest]; exact Bool.false_ne_true)]
  | cons l run ih =>
    obtain ⟨hl, htail⟩ := List.forall_mem_cons.1 hrun
    have hsettle : d.settle (l :: run ++ rest) = d := by
      rw [settle, List.cons_append, isRunning_head, if_pos hl]
    rw [hsettle, List.cons_append, lexemes_running hl]
    obtain ⟨token, span, quoted, listed⟩ := l
    cases token with
    | text text =>
      simp only [lexeme, addText_open hd]
      rw [ih htail rfl]
      simp only [runText, List.append_assoc]
    | softBreak =>
      simp only [lexeme, softBreak_open hd, startsWithText_append hrest]
      cases hs : startsWithText run with
      | true =>
        rw [if_pos rfl, ih htail rfl]
        simp only [runText, hs, if_true, List.append_assoc, List.singleton_append]
      | false =>
        rw [if_neg Bool.false_ne_true, ih htail hd]
        simp only [runText, hs, Bool.false_eq_true, if_false]
    | _ => cases hl

lemma flush_open {text quoting} (hd : d.paragraph = none) :
    { d with paragraph := some ⟨text, quoting⟩ }.flush =
      (paragraph? text quoting).elim d fun part => d.emit part := by
  have e : { d with paragraph := none } = d := by
    rw [← hd]
  simp only [flush, paragraph?, e]
  cases Text.trim text with
  | nil => rfl
  | cons c cs => rfl

/-- Ends of lines before the first text do not count. -/
lemma paragraphOf?_softBreak (h : l.token = .softBreak) :
    paragraphOf? (l :: run) = paragraphOf? run := by
  have htext : Text.trim (runText (l :: run)) = Text.trim (runText run) := by
    simp only [runText, h]
    split
    · rfl
    · rfl
  have hquoting : runQuoting (l :: run) = runQuoting run := by
    rw [runQuoting, List.find?_cons_of_neg (by rw [h]; exact Bool.false_ne_true), ← runQuoting]
  rw [paragraphOf?, paragraph?, htext, hquoting, ← paragraph?, ← paragraphOf?]

/-- A whole run adds its paragraph. -/
lemma lexemes_run (hrun : ∀ l ∈ run, l.token.isRunning = true)
    (hrest : continuesParagraph rest = false) (hd : d.paragraph = none) :
    d.lexemes dialect (run ++ rest) = (d.addRun run).lexemes dialect rest := by
  induction run with
  | nil => rfl
  | cons l run ih =>
    obtain ⟨hl, htail⟩ := List.forall_mem_cons.1 hrun
    rw [List.cons_append, lexemes_running hl]
    obtain ⟨token, span, quoted, listed⟩ := l
    cases token with
    | text text =>
      simp only [lexeme, addText_first hd]
      rw [lexemes_run_open htail hrest rfl, flush_open hd]
      rfl
    | softBreak =>
      simp only [lexeme, softBreak_first hd]
      rw [settle_of_paragraph hd, ih htail, addRun, addRun, paragraphOf?_softBreak rfl]
    | _ => cases hl

/-- No lexeme of a run adds an entry after a token of the same run. -/
lemma exists_entriesFrom_run {isOpen} {t : Token} (ht : t.isRunning = true)
    (hrun : ∀ l ∈ run, l.token.isRunning = true) :
    ∃ t' : Token, t'.isRunning = true ∧ entriesFrom dialect (some t) isOpen (run ++ rest) =
      entriesFrom dialect (some t') isOpen rest := by
  induction run generalizing t with
  | nil => exact ⟨t, ht, rfl⟩
  | cons l run ih =>
    have hl := hrun l List.mem_cons_self
    obtain ⟨t', ht', e⟩ := ih hl fun l hl => hrun l (List.mem_cons_of_mem _ hl)
    refine ⟨t', ht', ?_⟩
    rw [← e, List.cons_append, entriesFrom]
    obtain ⟨token, span, quoted, listed⟩ := l
    cases token with
    | text text =>
      simp only [entryOf?, Option.any_some, ht, if_true]
      rfl
    | softBreak =>
      simp only [entryOf?, Option.any_some, ht, if_true]
      rfl
    | _ => cases hl

lemma entryOf?_of_isRunning {before isOpen} (hl : l.token.isRunning = true)
    (hbefore : before.any Token.isRunning = false) :
    entryOf? dialect before isOpen l rest = (paragraphOf? (runOf (l :: rest))).map .part := by
  obtain ⟨token, span, quoted, listed⟩ := l
  cases token with
  | text text => simp only [entryOf?, hbefore, Bool.false_eq_true, if_false]
  | softBreak => simp only [entryOf?, hbefore, Bool.false_eq_true, if_false]
  | _ => cases hl

end Runs

section Lexemes

variable {before : Option Token} {lexemes : List Lexeme}

/-- Whether lexemes after a token neither go on with a paragraph nor describe an image. -/
structure Apart (before : Option Token) (lexemes : List Lexeme) : Prop where
  running : before.any Token.isRunning = true → continuesParagraph lexemes = false
  image : before.any Token.isImage = true → commentAhead? lexemes = none

lemma Apart.of_isRunning {t : Token} (ht : t.isRunning = true)
    (h : continuesParagraph lexemes = false) : Apart (some t) lexemes := by
  refine ⟨fun _ => h, fun hi => ?_⟩
  cases t with
  | image alt url => cases ht
  | _ => cases hi

/-- A lexeme of a paragraph starts a run, after which no lexeme goes on with the paragraph. -/
lemma exists_run (hl : l.token.isRunning = true) :
    ∃ run rest', runOf (l :: rest) = l :: run ∧ rest = run ++ rest' ∧
      (∀ l ∈ run, l.token.isRunning = true) ∧ continuesParagraph rest' = false := by
  let p (l : Lexeme) := l.token.isRunning
  have hstop := List.head?_dropWhile_not p rest
  refine ⟨rest.takeWhile p, rest.dropWhile p, ?_, List.takeWhile_append_dropWhile.symm, ?_, ?_⟩
  · exact @List.takeWhile_cons_of_pos _ p l rest hl
  · exact List.all_eq_true.1 List.all_takeWhile
  · cases hr : rest.dropWhile p with
    | nil => rfl
    | cons l rest' =>
      rw [hr] at hstop
      exact isRunning_head.trans hstop

/-- The comment after an image is read with it and adds no entry of its own. -/
lemma described (hl : l.token.isImage = true) {text} (h : commentAhead? rest = some text) :
    ∃ alt url c rest', l.token = .image alt url ∧ rest = c :: rest' ∧ c.token = .comment text ∧
      d.lexemes dialect (l :: rest) =
        ((d.image alt url (some text)).settle rest').lexemes dialect rest' ∧
      entriesFrom dialect before d.frame.isSome (l :: rest) =
        .part (.image (imageOf alt url (some text))) ::
          entriesFrom dialect (some c.token) d.frame.isSome rest' := by
  obtain ⟨token, span, quoted, listed⟩ := l
  cases token with
  | image alt url =>
    cases rest with
    | nil => cases h
    | cons c rest' =>
      obtain ⟨token, span', quoted', listed'⟩ := c
      cases token with
      | comment text =>
        cases h
        refine ⟨alt, url, _, rest', rfl, rfl, rfl, ?_, rfl⟩
        conv =>
          lhs
          unfold lexemes
      | _ => cases h
  | _ => cases hl

lemma commentAhead?_comment {text} (h : l.token = .comment text) :
    commentAhead? (l :: rest) = some text := by
  obtain ⟨token, span, quoted, listed⟩ := l
  cases h
  rfl

/-- A lexeme is read by itself unless it is an image with a comment. -/
lemma lexemes_alone (h : l.token.isImage = true → commentAhead? rest = none) :
    d.lexemes dialect (l :: rest) =
      ((d.lexeme dialect l rest).settle rest).lexemes dialect rest := by
  cases hi : l.token.isImage with
  | false =>
    refine lexemes_cons (.inl fun alt url e => ?_)
    rw [e] at hi
    cases hi
  | true =>
    refine lexemes_cons (.inr fun c hc text e => ?_)
    cases rest with
    | nil => cases hc
    | cons c' rest =>
      cases hc
      exact nomatch (commentAhead?_comment e).symm.trans (h hi)

/-- Moves read some lexemes and add their entries, and fewer lexemes are left. -/
structure Stride (dialect : Dialect) (d : Draft) (before : Option Token) (lexemes : List Lexeme)
    (es : List Entry) (d' : Draft) (before' : Option Token) (rest : List Lexeme) : Prop where
  moves : Moves d es d'
  entries : entriesFrom dialect before d.frame.isSome lexemes =
    es ++ entriesFrom dialect before' d'.frame.isSome rest
  read : d.lexemes dialect lexemes = d'.lexemes dialect rest
  apart : Apart before' rest
  shorter : rest.length < lexemes.length

/-- A run of text is read at once. -/
lemma exists_stride_run (hd : d.paragraph = none) (h : Apart before (l :: rest))
    (hl : l.token.isRunning = true) :
    ∃ es d' before' rest', Stride dialect d before (l :: rest) es d' before' rest' := by
  have hbefore : before.any Token.isRunning = false := by
    cases hb : before.any Token.isRunning with
    | false => rfl
    | true =>
      have stops := h.running hb
      rw [isRunning_head, hl] at stops
      cases stops
  have hopen : ∀ rest, leavesOpen d.frame.isSome l rest = d.frame.isSome := by
    obtain ⟨token, span, quoted, listed⟩ := l
    cases token with
    | text text => exact fun _ => rfl
    | softBreak => exact fun _ => rfl
    | _ => cases hl
  obtain ⟨run, rest', hrun, rfl, htail, hrest⟩ := @exists_run l rest hl
  have hall : ∀ x ∈ l :: run, x.token.isRunning = true := List.forall_mem_cons.2 ⟨hl, htail⟩
  obtain ⟨t, ht, hentries⟩ :=
    @exists_entriesFrom_run dialect rest' run d.frame.isSome l.token hl htail
  refine ⟨_, d.addRun (l :: run), some t, rest', moves_addRun, ?_, ?_, .of_isRunning ht hrest, ?_⟩
  · rw [entriesFrom, entryOf?_of_isRunning hl hbefore, hrun, hopen, hentries, isSome_frame_addRun]
  · rw [← List.cons_append, lexemes_run hall hrest hd]
  · simp only [List.length_cons, List.length_append]
    omega

/-- An image is read with its comment. -/
lemma exists_stride_described (hd : d.paragraph = none) (hl : l.token.isImage = true) {text}
    (htext : commentAhead? rest = some text) :
    ∃ es d' before' rest', Stride dialect d before (l :: rest) es d' before' rest' := by
  obtain ⟨alt, url, c, rest', -, rfl, hc, hread, hentries⟩ :=
    @described d dialect l rest before hl text htext
  have hquiet : (d.image alt url (some text)).paragraph = none := emit_paragraph.trans hd
  have hframe : (d.image alt url (some text)).frame.isSome = d.frame.isSome := isSome_frame_emit
  have apart : Apart (some c.token) rest' := by
    rw [hc]
    exact ⟨nofun, nofun⟩
  have moves : Moves d [.part (.image (imageOf alt url (some text)))]
      (d.image alt url (some text)) := moves_alone l.span rfl rfl
  refine ⟨_, _, some c.token, rest', moves, ?_, ?_, apart, ?_⟩
  · rw [hentries, hframe]
    rfl
  · rw [hread, settle_of_paragraph hquiet]
  · simp only [List.length_cons]
    omega

/-- Any other lexeme is read by itself. -/
lemma exists_stride_alone (hd : d.paragraph = none) (h : Apart before (l :: rest))
    (hl : l.token.isRunning = false) (himage : l.token.isImage = true → commentAhead? rest = none) :
    ∃ es d' before' rest', Stride dialect d before (l :: rest) es d' before' rest' := by
  have hcomment : ∀ text, l.token = .comment text → before.any Token.isImage = false := by
    intro text htext
    cases hb : before.any Token.isImage with
    | false => rfl
    | true => exact nomatch (commentAhead?_comment htext).symm.trans (h.image hb)
  obtain ⟨moves, frame⟩ := moves_lexeme hd hl himage hcomment
  have apart : Apart (some l.token) rest := by
    refine ⟨fun hr => ?_, himage⟩
    exact nomatch hr.symm.trans hl
  refine ⟨_, _, some l.token, rest, moves, ?_, ?_, apart, Nat.lt_succ_self _⟩
  · rw [entriesFrom, frame]
  · rw [lexemes_alone himage, settle_of_paragraph (moves.paragraph hd)]

lemma exists_stride (hd : d.paragraph = none) (h : Apart before (l :: rest)) :
    ∃ es d' before' rest', Stride dialect d before (l :: rest) es d' before' rest' := by
  cases hl : l.token.isRunning with
  | true => exact exists_stride_run hd h hl
  | false =>
    cases hi : l.token.isImage with
    | true =>
      cases hahead : commentAhead? rest with
      | some text => exact exists_stride_described hd hi hahead
      | none => exact exists_stride_alone hd h hl fun _ => hahead
    | false =>
      refine exists_stride_alone hd h hl fun himage => ?_
      exact nomatch himage.symm.trans hi

/-- The labels of the moves are the entries of the lexemes. -/
lemma moves_lexemes (hd : d.paragraph = none) (h : Apart before lexemes) :
    Moves d (entriesFrom dialect before d.frame.isSome lexemes) (d.lexemes dialect lexemes) := by
  -- a stride may read several lexemes, so the induction is on their number
  induction hn : lexemes.length using Nat.strongRecOn generalizing d before lexemes with
  | ind n ih =>
    subst hn
    cases lexemes with
    | nil => exact .refl
    | cons l rest =>
      obtain ⟨es, d', before', rest', stride⟩ := @exists_stride d dialect l rest before hd h
      have tail := ih _ stride.shorter (stride.moves.paragraph hd) stride.apart rfl
      rw [stride.entries, stride.read]
      exact stride.moves.trans tail

/-- The draft of lexemes after the last of them, with no open condition. -/
def reading (dialect : Dialect) (lexemes : List Lexeme) : Draft :=
  ((empty.lexemes dialect lexemes).flush).abandonFrame .storyEnd

lemma moves_reading :
    Moves empty (entriesOf dialect lexemes) (reading dialect lexemes) ∧
      (reading dialect lexemes).frame = none := by
  have moves : Moves empty (entriesOf dialect lexemes) (empty.lexemes dialect lexemes) :=
    moves_lexemes rfl ⟨nofun, nofun⟩
  have given := moves.trans (@moves_abandonFrame _ .storyEnd)
  rw [List.append_nil] at given
  rw [reading, flush_of_none (moves.paragraph rfl)]
  exact ⟨given, frame_abandonFrame⟩

end Lexemes

end Markup.Draft

end Gamebook
