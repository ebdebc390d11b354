import Gamebook.Proofs.Faults
import Mathlib.Data.List.TakeWhile

/-!
# Conditions between brackets

A condition that is opened by code with an expression and closed by code again becomes one piece of
content, whatever comes before and after it. Its branches are what the lexemes in between make up by
themselves: to read them into the open branch is to read them into a draft of their own and to add
that draft to the branch. Main definitions: `Lexeme.isInner`, `Bracketed`, `Draft.enclose`. Main
statements: `Draft.lexemes_enclose`, `Draft.lexemes_bracketed`.
-/

namespace Gamebook

namespace Text

variable {c : Char} {cs : List Char}

/-- The last character of a text that is no blank is the last one without its blanks. -/
lemma getLast?_removeBlanks : (removeBlanks cs).getLast? = (trimEnd cs).getLast? := by
  rw [removeBlanks, trimEnd, dropEndWhile, List.getLast?_reverse, ← List.head?_reverse,
    ← List.filter_reverse, List.head?_filter, List.find?_not_eq_head?_dropWhile]

/-- A text that a suffix is dropped from ends with it. -/
lemma getLast?_of_dropSuffix? (h : (dropSuffix? [c] cs).isSome) : cs.getLast? = some c := by
  obtain ⟨rest, hrest⟩ := Option.isSome_iff_exists.1 h
  obtain ⟨reversed, hreversed, -⟩ := Option.map_eq_some_iff.1 hrest
  have e := dropPrefix?_eq_some_iff.1 hreversed
  rw [← List.head?_reverse, e]
  rfl

end Text

namespace Markup

/-- Whether code ends in a brace, blanks behind it left aside. -/
def endsInBrace (code : List Char) : Bool :=
  (Text.trimEnd code).getLast?.any fun c => c = '{' || c = '}'

/-- Whether a lexeme is neither a heading nor code that ends in a brace. -/
def Lexeme.isInner (l : Lexeme) : Bool :=
  match l.token with
  | .heading .. => false
  | .code code => !endsInBrace code
  | _ => true

/-- The lexemes of a condition, from the code that opens it to the code that closes it. -/
structure Bracketed where
  /-- The code that opens the condition. -/
  opening : Lexeme
  /-- What the condition asks. -/
  expression : List Char
  /-- The lexemes of the first branch. -/
  whenTrue : List Lexeme
  /-- The else sign and the lexemes of the second branch, if there is one. -/
  second : Option (Lexeme × List Lexeme)
  /-- The code that closes the condition. -/
  closing : Lexeme
  opening_marker : opening.marker? = some (.opening expression)
  expression_ne_nil : expression ≠ []
  whenTrue_inner : ∀ l ∈ whenTrue, l.isInner = true
  second_marker : ∀ s ∈ second, s.1.marker? = some .otherwise
  second_inner : ∀ s ∈ second, ∀ l ∈ s.2, l.isInner = true
  closing_marker : closing.marker? = some .closing

namespace Bracketed

/-- The lexemes of the second branch; none if there is no such branch. -/
def whenFalse (c : Bracketed) : List Lexeme :=
  c.second.elim [] (·.2)

/-- The lexemes in order. -/
def lexemes (c : Bracketed) : List Lexeme :=
  c.opening :: (c.whenTrue ++ (c.second.elim [] (fun s => s.1 :: s.2) ++ [c.closing]))

end Bracketed

section Codes

variable {code : List Char}

lemma Lexeme.exists_code {l : Lexeme} {marker} (h : l.marker? = some marker) :
    ∃ code, l.token = .code code ∧ Marker.ofCode code = marker := by
  obtain ⟨token, span, quoted, listed⟩ := l
  cases token with
  | code code => exact ⟨code, rfl, Option.some.inj h⟩
  | _ => cases h

lemma endsInBrace_of_isElseSign (h : isElseSign code = true) : endsInBrace code = true := by
  have blankless : Text.removeBlanks code = ['}', ':', '{'] := eq_of_beq h
  rw [endsInBrace, ← Text.getLast?_removeBlanks, blankless]
  rfl

lemma endsInBrace_of_conditionStart? (h : (conditionStart? code).isSome) :
    endsInBrace code = true := by
  rw [conditionStart?, Option.isSome_map] at h
  rw [endsInBrace, Text.getLast?_of_dropSuffix? h]
  rfl

/-- Code that does not end in a brace is a way on or has no meaning. -/
lemma ofCode_of_not_endsInBrace (h : endsInBrace code = false) :
    (∃ text target, Marker.ofCode code = .navigation text target) ∨
      Marker.ofCode code = .plain := by
  have notElse : isElseSign code = false :=
    Bool.eq_false_iff.2 fun he => Bool.eq_false_iff.1 h (endsInBrace_of_isElseSign he)
  have notStart : conditionStart? code = none :=
    Option.not_isSome_iff_eq_none.1 fun hs =>
      Bool.eq_false_iff.1 h (endsInBrace_of_conditionStart? hs)
  have notEnd : ¬ (Text.dropSuffix? ['}'] (Text.trimEnd code)).isSome := by
    intro he
    rw [endsInBrace, Text.getLast?_of_dropSuffix? he] at h
    cases h
  rw [Marker.ofCode]
  cases navigation? code with
  | some way => exact .inl ⟨way.1, way.2, rfl⟩
  | none =>
    refine .inr ?_
    simp only [notElse, notStart, Bool.false_eq_true, if_false, if_neg notEnd]

lemma startsCondition_of_not_endsInBrace (h : endsInBrace code = false) :
    startsCondition code = false := by
  rw [startsCondition, Bool.and_eq_false_iff]
  refine .inr (Bool.eq_false_iff.2 fun hs => ?_)
  exact Bool.eq_false_iff.1 h (endsInBrace_of_conditionStart? hs)

/-- Code that opens a condition is seen to do so from before it. -/
lemma startsCondition_of_opening {expression} (h : Marker.ofCode code = .opening expression) :
    startsCondition code = true := by
  rw [Marker.ofCode] at h
  split at h
  · cases h
  · split at h
    · cases h
    · next notElse =>
      split at h
      · next start =>
        rw [startsCondition, start, Bool.eq_false_iff.2 notElse]
        rfl
      · split at h
        · cases h
        · cases h

/-- Code that goes on with a condition or ends one does not open one. -/
lemma startsCondition_of_ofCode
    (h : Marker.ofCode code = .otherwise ∨ Marker.ofCode code = .closing) :
    startsCondition code = false := by
  rw [startsCondition]
  rw [Marker.ofCode] at h
  split at h
  · rcases h with h | h <;> cases h
  · split at h
    · next isElse => rw [isElse, Bool.not_true, Bool.false_and]
    · split at h
      · rcases h with h | h <;> cases h
      · next start => rw [start, Option.isSome_none, Bool.and_false]

end Codes

section Ahead

variable {stop : Lexeme} {code : List Char} {lexemes rest : List Lexeme}
  (hstop : stop.token = .code code)

include hstop

lemma continuesParagraph_append_code :
    continuesParagraph (lexemes ++ stop :: rest) = continuesParagraph lexemes := by
  cases lexemes with
  | nil =>
    obtain ⟨token, span, quoted, listed⟩ := stop
    cases hstop
    rfl
  | cons l lexemes =>
    obtain ⟨token, span, quoted, listed⟩ := l
    cases token <;> rfl

lemma startsWithText_append_code :
    startsWithText (lexemes ++ stop :: rest) = startsWithText lexemes :=
  Draft.startsWithText_append (@continuesParagraph_append_code stop code [] rest hstop)

lemma commentAhead?_append_code :
    commentAhead? (lexemes ++ stop :: rest) = commentAhead? lexemes := by
  cases lexemes with
  | nil =>
    obtain ⟨token, span, quoted, listed⟩ := stop
    cases hstop
    rfl
  | cons l lexemes =>
    obtain ⟨token, span, quoted, listed⟩ := l
    cases token <;> rfl

/-- The first code before some code is the first code among the lexemes before it, if there is
any. -/
lemma nextCode?_append_code :
    nextCode? (lexemes ++ stop :: rest) = (nextCode? lexemes).or (some code) := by
  induction lexemes with
  | nil =>
    obtain ⟨token, span, quoted, listed⟩ := stop
    cases hstop
    rfl
  | cons l lexemes ih =>
    obtain ⟨token, span, quoted, listed⟩ := l
    cases token with
    | code first => rfl
    | _ => exact ih

end Ahead

/-- No code among inner lexemes starts a condition. -/
lemma not_startsCondition_of_nextCode? {lexemes : List Lexeme} {code : List Char}
    (hinner : ∀ l ∈ lexemes, l.isInner = true) (h : nextCode? lexemes = some code) :
    startsCondition code = false := by
  induction lexemes with
  | nil => cases h
  | cons l lexemes ih =>
    obtain ⟨hl, htail⟩ := List.forall_mem_cons.1 hinner
    obtain ⟨token, span, quoted, listed⟩ := l
    cases token with
    | code first =>
      cases h
      rw [Lexeme.isInner, Bool.not_eq_true'] at hl
      exact startsCondition_of_not_endsInBrace hl
    | _ => exact ih htail h

lemma canClose_append_code {stop : Lexeme} {code : List Char} {lexemes rest : List Lexeme}
    (hinner : ∀ l ∈ lexemes, l.isInner = true) (hstop : stop.token = .code code)
    (hcode : startsCondition code = false) : canClose (lexemes ++ stop :: rest) = true := by
  rw [canClose, nextCode?_append_code hstop]
  cases h : nextCode? lexemes with
  | none => exact congrArg Bool.not hcode
  | some first => exact congrArg Bool.not (not_startsCondition_of_nextCode? hinner h)

/-- Parts are added to a branch one after the other. -/
lemma OpenCondition.addAll_concat {c : OpenCondition} {parts part} :
    c.addAll (parts ++ [part]) = (c.addAll parts).add part := by
  obtain ⟨condition, inElse, whenTrue, whenFalse, span⟩ := c
  cases inElse <;> simp [addAll, add]

namespace Draft

variable {d e : Draft} {frame : OpenCondition} {dialect : Dialect} {l : Lexeme}
  {lexemes rest : List Lexeme} {part : Part} {span : Span}

/-- A draft with an open condition, to whose open branch another draft is added. -/
def enclose (frame : OpenCondition) (d e : Draft) : Draft :=
  { d with
    frame := some (frame.addAll e.description)
    paragraph := e.paragraph
    targets := d.targets ++ e.targets
    diagnostics := d.diagnostics ++ e.diagnostics }

/-- Whether a draft has content outside of sections only, and no trouble with conditions. -/
structure Loose (d : Draft) : Prop where
  frame : d.frame = none
  current : d.current = none
  closed : ∀ x ∈ d.diagnostics, x.problem.isUnclosed = false

lemma loose_empty : Loose empty :=
  ⟨rfl, rfl, fun _ h => by cases h⟩

lemma enclose_empty (h : d.paragraph = none) :
    d.enclose frame empty = { d with frame := some frame } := by
  simp only [enclose, empty, OpenCondition.addAll_nil, List.append_nil, ← h]

/-- A condition is not given up where code can close it. -/
lemma closeLast_of_canClose (h : canClose rest = true) : d.closeLast rest = d := by
  rw [canClose] at h
  rw [closeLast]
  cases hcode : nextCode? rest with
  | none =>
    rw [hcode] at h
    cases h
  | some code =>
    rw [hcode, Option.any_some, Bool.not_eq_true'] at h
    simp only [h, Bool.false_eq_true, if_false]

section Steps

lemma enclose_report {problem} :
    (d.enclose frame e).report problem span = d.enclose frame (e.report problem span) := by
  simp only [enclose, report, List.append_assoc]

lemma enclose_noteTarget {target} :
    (d.enclose frame e).noteTarget target span = d.enclose frame (e.noteTarget target span) := by
  simp only [enclose, noteTarget, List.append_assoc]

lemma enclose_addText {text quoting} :
    (d.enclose frame e).addText text quoting = d.enclose frame (e.addText text quoting) := by
  rw [addText, addText]
  cases h : e.paragraph with
  | none => simp only [enclose, h]
  | some p => simp only [enclose, h]

lemma Loose.report {problem} (h : e.Loose) (hp : problem.isUnclosed = false) :
    (e.report problem span).Loose := by
  refine ⟨h.frame, h.current, fun x hx => ?_⟩
  rcases List.mem_append.1 hx with hx | hx
  · exact h.closed x hx
  · rw [List.mem_singleton.1 hx]
    exact hp

lemma Loose.noteTarget {target} (h : e.Loose) : (e.noteTarget target span).Loose :=
  ⟨h.frame, h.current, h.closed⟩

lemma Loose.addText {text quoting} (h : e.Loose) : (e.addText text quoting).Loose := by
  rw [Draft.addText]
  split
  · exact ⟨h.frame, h.current, h.closed⟩
  · exact ⟨h.frame, h.current, h.closed⟩

variable (he : e.Loose)

include he

lemma Loose.emit_eq : e.emit part = { e with description := e.description ++ [part] } := by
  rw [emit, he.frame, he.current]

lemma Loose.emit : (e.emit part).Loose := by
  rw [he.emit_eq]
  exact ⟨he.frame, he.current, he.closed⟩

lemma enclose_emit : (d.enclose frame e).emit part = d.enclose frame (e.emit part) := by
  rw [he.emit_eq]
  simp only [enclose, OpenCondition.addAll_concat]
  rfl

lemma enclose_flush :
    (d.enclose frame e).flush = d.enclose frame e.flush ∧ e.flush.Loose := by
  have quiet : ({ e with paragraph := none } : Draft).Loose := ⟨he.frame, he.current, he.closed⟩
  cases hp : e.paragraph with
  | none => exact ⟨by rw [flush_of_none hp, flush_of_none (by exact hp)], by rwa [flush_of_none hp]⟩
  | some p =>
    simp only [flush, hp, show (d.enclose frame e).paragraph = some p from hp]
    cases Text.trim p.text with
    | nil => exact ⟨rfl, quiet⟩
    | cons c cs => exact ⟨@enclose_emit d _ frame _ quiet, quiet.emit⟩

lemma Loose.closeLast_eq : e.closeLast rest = e := by
  have given : e.abandonFrame .lastCode = e := by
    rw [abandonFrame, he.frame]
  rw [closeLast]
  split
  · exact given
  · rw [given, ite_self]

lemma enclose_code {code : List Char} {ahead : List Lexeme} (hcode : endsInBrace code = false)
    (hclose : canClose ahead = true) :
    (d.enclose frame e).code code span ahead = d.enclose frame (e.code code span rest) ∧
      (e.code code span rest).Loose := by
  rw [Draft.code, Draft.code]
  obtain ⟨text, target, hm⟩ | hm := ofCode_of_not_endsInBrace hcode
  · simp only [hm]
    rw [enclose_noteTarget, enclose_emit he.noteTarget]
    exact ⟨rfl, he.noteTarget.emit⟩
  · have reported : (e.report .noMarker span).Loose := he.report rfl
    simp only [hm]
    rw [enclose_report, enclose_emit reported, closeLast_of_canClose hclose,
      reported.emit.closeLast_eq]
    exact ⟨rfl, reported.emit⟩

lemma enclose_fence {content} :
    (d.enclose frame e).fence content span = d.enclose frame (e.fence content span) ∧
      (e.fence content span).Loose := by
  rw [fence, fence]
  cases (actionOf content).error with
  | none => exact ⟨enclose_emit he, he.emit⟩
  | some message =>
    have reported : (e.report (.noState message) span).Loose := he.report rfl
    simp only
    rw [enclose_report, enclose_emit reported]
    exact ⟨rfl, reported.emit⟩

lemma enclose_softBreak {ahead : List Lexeme} (h : startsWithText ahead = startsWithText rest) :
    (d.enclose frame e).softBreak ahead = d.enclose frame (e.softBreak rest) ∧
      (e.softBreak rest).Loose := by
  cases hp : e.paragraph with
  | none =>
    have hp' : (d.enclose frame e).paragraph = none := hp
    rw [softBreak_first hp, softBreak_first hp']
    exact ⟨rfl, he⟩
  | some p =>
    have hp' : (d.enclose frame e).paragraph = some p := hp
    rw [softBreak_open hp, softBreak_open hp', h]
    split
    · exact ⟨rfl, he.frame, he.current, he.closed⟩
    · exact ⟨rfl, he⟩

/-- An inner lexeme is read into the open branch as it is read by itself. -/
lemma enclose_lexeme {stop : Lexeme} {code : List Char} {tail : List Lexeme}
    (hl : l.isInner = true) (hrest : ∀ l ∈ rest, l.isInner = true)
    (hstop : stop.token = .code code) (hcode : startsCondition code = false) :
    (d.enclose frame e).lexeme dialect l (rest ++ stop :: tail) =
      d.enclose frame (e.lexeme dialect l rest) ∧ (e.lexeme dialect l rest).Loose := by
  obtain ⟨token, span, quoted, listed⟩ := l
  cases token with
  | heading level text anchor => cases hl
  | text text => exact ⟨enclose_addText, he.addText⟩
  | softBreak => exact enclose_softBreak he (startsWithText_append_code hstop)
  | «break» => exact ⟨rfl, he⟩
  | image alt url => exact ⟨enclose_emit he, he.emit⟩
  | link text href =>
    refine ⟨?_, he.noteTarget.emit⟩
    simp only [lexeme]
    rw [enclose_noteTarget, enclose_emit he.noteTarget]
  | code inner =>
    rw [Lexeme.isInner, Bool.not_eq_true'] at hl
    exact enclose_code he hl (canClose_append_code hrest hstop hcode)
  | fence info content => exact enclose_fence he
  | comment text => exact ⟨enclose_emit he, he.emit⟩

end Steps

section Lexemes

/-- An image before a comment is read together with it. -/
lemma lexemes_described {i c : Lexeme} {alt url text} (hi : i.token = .image alt url)
    (hc : c.token = .comment text) :
    d.lexemes dialect (i :: c :: rest) =
      ((d.image alt url (some text)).settle rest).lexemes dialect rest := by
  obtain ⟨token, span, quoted, listed⟩ := i
  obtain ⟨token', span', quoted', listed'⟩ := c
  cases hi
  cases hc
  conv =>
    lhs
    unfold lexemes

variable {stop : Lexeme} {code : List Char} {tail : List Lexeme}

lemma settle_append_code (hstop : stop.token = .code code) :
    d.settle (rest ++ stop :: tail) = d.settle rest := by
  rw [settle, settle, continuesParagraph_append_code hstop]

lemma enclose_settle (he : e.Loose) :
    (d.enclose frame e).settle rest = d.enclose frame (e.settle rest) ∧ (e.settle rest).Loose := by
  rw [settle, settle]
  split
  · exact ⟨rfl, he⟩
  · exact enclose_flush he

lemma commentAhead?_of_alone {l : Lexeme}
    (h : ∀ (alt url : List Char) (span : Span) (quoted listed : Bool) (text : List Char)
      (span' : Span) (quoted' listed' : Bool) (rest' : List Lexeme),
      l = ⟨.image alt url, span, quoted, listed⟩ →
        rest = ⟨.comment text, span', quoted', listed'⟩ :: rest' → False) :
    l.token.isImage = true → commentAhead? rest = none := by
  intro hl
  obtain ⟨token, span, quoted, listed⟩ := l
  cases token with
  | image alt url =>
    cases rest with
    | nil => rfl
    | cons c rest =>
      obtain ⟨token, span', quoted', listed'⟩ := c
      cases token with
      | comment text => exact (h _ _ _ _ _ _ _ _ _ _ rfl rfl).elim
      | _ => rfl
  | _ => cases hl

/-- Code is read before the start of a condition as it is read before the end of the story. -/
lemma lexeme_append_opening (hstop : stop.token = .code code)
    (hcode : startsCondition code = true) :
    d.lexeme dialect l (rest ++ stop :: tail) = d.lexeme dialect l rest := by
  have last : ∀ d : Draft, d.closeLast (rest ++ stop :: tail) = d.closeLast rest := by
    intro d
    rw [closeLast, closeLast, nextCode?_append_code hstop]
    cases nextCode? rest with
    | none => exact if_pos hcode
    | some first => rfl
  obtain ⟨token, span, quoted, listed⟩ := l
  cases token with
  | softBreak => simp only [lexeme, softBreak, startsWithText_append_code hstop]
  | code first => simp only [lexeme, Draft.code, last]
  | _ => rfl

/-- Inner lexemes are read into the open branch as they are read by themselves. -/
lemma lexemes_enclose (he : e.Loose) (hinner : ∀ l ∈ lexemes, l.isInner = true)
    (hstop : stop.token = .code code) (hcode : startsCondition code = false) :
    (d.enclose frame e).lexemes dialect (lexemes ++ stop :: tail) =
      (d.enclose frame (e.lexemes dialect lexemes)).lexemes dialect (stop :: tail) ∧
      (e.lexemes dialect lexemes).Loose := by
  induction e, lexemes using Draft.lexemes.induct dialect with
  | case1 e => exact ⟨rfl, he⟩
  | case2 e alt url span quoted listed text span' quoted' listed' rest ih =>
    rw [List.forall_mem_cons, List.forall_mem_cons] at hinner
    have added : (d.enclose frame e).image alt url (some text) =
        d.enclose frame (e.image alt url (some text)) := enclose_emit he
    obtain ⟨settled, loose⟩ := @enclose_settle d _ frame rest he.emit
    obtain ⟨read, done⟩ := ih loose hinner.2.2
    rw [List.cons_append, List.cons_append, lexemes_described rfl rfl, lexemes_described rfl rfl,
      settle_append_code hstop, added]
    exact ⟨(congrArg (Draft.lexemes dialect · (rest ++ stop :: tail)) settled).trans read, done⟩
  | case3 e l rest alone ih =>
    obtain ⟨hl, hrest⟩ := List.forall_mem_cons.1 hinner
    have himage := commentAhead?_of_alone alone
    obtain ⟨taken, quiet⟩ := @enclose_lexeme d e frame dialect l rest he stop code tail hl hrest
      hstop hcode
    obtain ⟨settled, loose⟩ := @enclose_settle d _ frame rest quiet
    obtain ⟨read, done⟩ := ih loose hrest
    rw [List.cons_append, lexemes_alone himage,
      lexemes_alone (by rwa [commentAhead?_append_code hstop]), settle_append_code hstop, taken]
    exact ⟨(congrArg (Draft.lexemes dialect · (rest ++ stop :: tail)) settled).trans read, done⟩

/-- What comes before the start of a condition is read as it is read by itself. -/
lemma lexemes_append_opening (hstop : stop.token = .code code)
    (hcode : startsCondition code = true) :
    d.lexemes dialect (lexemes ++ stop :: tail) =
      (d.lexemes dialect lexemes).lexemes dialect (stop :: tail) := by
  induction d, lexemes using Draft.lexemes.induct dialect with
  | case1 d => rfl
  | case2 d alt url span quoted listed text span' quoted' listed' rest ih =>
    rw [List.cons_append, List.cons_append, lexemes_described rfl rfl, lexemes_described rfl rfl,
      settle_append_code hstop, ih]
  | case3 d l rest alone ih =>
    have himage := commentAhead?_of_alone alone
    rw [List.cons_append, lexemes_alone himage,
      lexemes_alone (by rwa [commentAhead?_append_code hstop]), settle_append_code hstop,
      lexeme_append_opening hstop hcode, ih]

end Lexemes

section Brackets

/-- A draft to whose notes those of another draft are added. -/
def noting (d e : Draft) : Draft :=
  { d with targets := d.targets ++ e.targets, diagnostics := d.diagnostics ++ e.diagnostics }

lemma lexemes_of_code {code} (hd : d.paragraph = none) (hl : l.token = .code code) :
    d.lexemes dialect (l :: rest) = (d.code code l.span rest).lexemes dialect rest := by
  have read : d.lexeme dialect l rest = d.code code l.span rest := by
    rw [lexeme, hl]
  have settled : (d.code code l.span rest).paragraph = none := moves_code.1.paragraph hd
  rw [lexemes_alone (by rw [hl]; exact fun h => by cases h), read, settle_of_paragraph settled]

/-- Code with an expression opens a condition, after an open one is given up. -/
lemma lexemes_opening {expression} (hd : d.paragraph = none)
    (hl : l.marker? = some (.opening expression)) (hne : expression ≠ [])
    (hclose : canClose rest = true) :
    d.lexemes dialect (l :: rest) =
      ((d.abandonFrame .condition).enclose (.start ⟨.ofList expression, none, none, none⟩ l.span)
        empty).lexemes dialect rest := by
  obtain ⟨code, htoken, hm⟩ := Lexeme.exists_code hl
  obtain ⟨c, cs, rfl⟩ := List.exists_cons_of_ne_nil hne
  have quiet : (d.abandonFrame .condition).paragraph = none := moves_abandonFrame.paragraph hd
  rw [lexemes_of_code hd htoken, Draft.code, hm, enclose_empty quiet]
  simp only [closeLast_of_canClose hclose]
  rfl

/-- The first else sign goes on with the second branch. -/
lemma lexemes_else (hd : d.paragraph = none) (hin : frame.inElse = false)
    (hl : l.marker? = some .otherwise) (hclose : canClose rest = true) :
    { d with frame := some frame }.lexemes dialect (l :: rest) =
      { d with frame := some { frame with inElse := true } }.lexemes dialect rest := by
  obtain ⟨code, hcode, hm⟩ := Lexeme.exists_code hl
  have quiet : { d with frame := some frame }.paragraph = none := hd
  rw [lexemes_of_code quiet hcode, Draft.code, hm]
  simp only [closeLast_of_canClose hclose, enterElse, hin, Bool.false_eq_true, if_false]

/-- The end of a condition adds it to the content. -/
lemma lexemes_end (hd : d.paragraph = none) (hl : l.marker? = some .closing) :
    { d with frame := some frame }.lexemes dialect (l :: rest) =
      ({ d with frame := none }.emit frame.toPart).lexemes dialect rest := by
  obtain ⟨code, hcode, hm⟩ := Lexeme.exists_code hl
  have quiet : { d with frame := some frame }.paragraph = none := hd
  rw [lexemes_of_code quiet hcode, Draft.code, hm]
  rfl

lemma noting_empty : d.noting empty = d := by
  simp only [noting, empty, List.append_nil]

lemma paragraph_lexemes : (empty.lexemes dialect lexemes).paragraph = none :=
  (@moves_lexemes empty dialect none lexemes rfl ⟨nofun, nofun⟩).paragraph rfl

/-- A branch that code ends is read as it is read by itself. -/
lemma lexemes_branch {stop : Lexeme} {tail marker} (hd : d.paragraph = none)
    (hinner : ∀ l ∈ lexemes, l.isInner = true) (hstop : stop.marker? = some marker)
    (hmarker : marker = .otherwise ∨ marker = .closing) :
    let branch := empty.lexemes dialect lexemes
    { d with frame := some frame }.lexemes dialect (lexemes ++ stop :: tail) =
      { d.noting branch with frame := some (frame.addAll branch.description) }.lexemes dialect
        (stop :: tail) ∧ branch.Loose := by
  intro branch
  obtain ⟨code, hcode, hm⟩ := Lexeme.exists_code hstop
  obtain ⟨read, loose⟩ := @lexemes_enclose d empty frame dialect lexemes stop code tail loose_empty
    hinner hcode (startsCondition_of_ofCode (hm ▸ hmarker))
  refine ⟨?_, loose⟩
  have added : d.enclose frame branch =
      { d.noting branch with frame := some (frame.addAll branch.description) } := by
    rw [enclose, show branch.paragraph = none from paragraph_lexemes, ← hd]
    rfl
  rw [← enclose_empty hd, read, added]

end Brackets

end Draft

/-- The content that lexemes make up by themselves, before the settings are taken out of it. -/
def contentAlone (dialect : Dialect) (lexemes : List Lexeme) : List Part :=
  (Draft.empty.lexemes dialect lexemes).close.description

lemma contentAlone_eq {dialect lexemes} (h : (Draft.empty.lexemes dialect lexemes).Loose) :
    contentAlone dialect lexemes = (Draft.empty.lexemes dialect lexemes).description := by
  have quiet : (Draft.empty.lexemes dialect lexemes).paragraph = none := Draft.paragraph_lexemes
  rw [contentAlone, Draft.close, Draft.flush_of_none quiet, Draft.abandonFrame, h.frame]
  simp only [Draft.finishSection, h.current]
  rfl

namespace Draft

variable {d : Draft} {dialect : Dialect} {after : List Lexeme}

/-- The branches of a condition are read up to its end. -/
lemma lexemes_between {c : Bracketed} {condition : Condition} {span : Span}
    (hd : d.paragraph = none) :
    let first := empty.lexemes dialect c.whenTrue
    let second := empty.lexemes dialect c.whenFalse
    { d with frame := some (.start condition span) }.lexemes dialect
        (c.whenTrue ++ (c.second.elim [] (fun s => s.1 :: s.2) ++ c.closing :: after)) =
      ({ (d.noting first).noting second with frame := none }.emit
        (.condition condition first.description second.description)).lexemes dialect after ∧
      first.Loose ∧ second.Loose := by
  intro first second
  let started : OpenCondition := .start condition span
  let between : OpenCondition := ⟨condition, true, first.description, [], span⟩
  cases hs : c.second with
  | none =>
    have absent : second = empty := by
      simp only [second, Bracketed.whenFalse, hs]
      rfl
    obtain ⟨read, loose⟩ := @lexemes_branch d started dialect c.whenTrue c.closing after _ hd
      c.whenTrue_inner c.closing_marker (.inr rfl)
    have ended := @lexemes_end (d.noting first) (started.addAll first.description) dialect
      c.closing after hd c.closing_marker
    rw [absent, noting_empty]
    exact ⟨read.trans ended, loose, loose_empty⟩
  | some s =>
    obtain ⟨sign, whenFalse⟩ := s
    have present : second = empty.lexemes dialect whenFalse := by
      simp only [second, Bracketed.whenFalse, hs]
      rfl
    have hsign : sign.marker? = some .otherwise := c.second_marker _ hs
    have hinner : ∀ l ∈ whenFalse, l.isInner = true := c.second_inner _ hs
    have hclose : canClose (whenFalse ++ c.closing :: after) = true := by
      obtain ⟨code, hcode, hm⟩ := Lexeme.exists_code c.closing_marker
      exact canClose_append_code hinner hcode (startsCondition_of_ofCode (.inr hm))
    -- in turn: the first branch, the sign between them, the second branch, the end
    obtain ⟨readFirst, loose⟩ := @lexemes_branch d started dialect c.whenTrue sign
      (whenFalse ++ c.closing :: after) _ hd c.whenTrue_inner hsign (.inl rfl)
    have parted := @lexemes_else (d.noting first) (started.addAll first.description) dialect sign
      _ hd rfl hsign hclose
    obtain ⟨readSecond, loose'⟩ := @lexemes_branch (d.noting first) between dialect whenFalse
      c.closing after _ hd hinner c.closing_marker (.inr rfl)
    have ended := @lexemes_end ((d.noting first).noting second)
      (between.addAll second.description) dialect c.closing after hd c.closing_marker
    rw [← present] at readSecond loose'
    refine ⟨?_, loose, loose'⟩
    calc
      _ = _ := readFirst
      _ = _ := parted
      _ = _ := readSecond
      _ = _ := ended

/-- Without an open condition a part is put at the end of the current section, or else of the
description. -/
lemma emit_of_none {part : Part} (h : d.frame = none) :
    d.emit part = { d with
      current := d.current.map fun s => { s with parts := s.parts ++ [part] }
      description := d.description ++ (if d.current.isSome then [] else [part]) } := by
  rw [emit, h]
  cases d.current with
  | none => simp
  | some s => simp

/-- There is code that can close a condition, among its branches or behind them. -/
lemma canClose_between {c : Bracketed} :
    canClose (c.whenTrue ++ (c.second.elim [] (fun s => s.1 :: s.2) ++ c.closing :: after)) =
      true := by
  cases hs : c.second with
  | none =>
    obtain ⟨code, hcode, hm⟩ := Lexeme.exists_code c.closing_marker
    exact canClose_append_code c.whenTrue_inner hcode (startsCondition_of_ofCode (.inr hm))
  | some s =>
    obtain ⟨code, hcode, hm⟩ := Lexeme.exists_code (c.second_marker s hs)
    exact canClose_append_code c.whenTrue_inner hcode (startsCondition_of_ofCode (.inl hm))

/--
A condition that is opened by code with an expression and closed by code again is read as one piece
of content, whatever comes before and after. It has this expression and nothing is wrong with it,
and its branches are what the lexemes in between make up by themselves. It is put at the end of the
section that is the current one before it, or else of the description, and a condition that is still
open there is given up first. No condition is open after it, and of all that is noted nothing is
about a condition that is not closed but for the one given up.
-/
theorem lexemes_bracketed (dialect : Dialect) (before after : List Lexeme) (c : Bracketed) :
    let reached := (empty.lexemes dialect before).abandonFrame .condition
    let first := empty.lexemes dialect c.whenTrue
    let second := empty.lexemes dialect c.whenFalse
    let part := Part.condition ⟨.ofList c.expression, none, none, none⟩
      (contentAlone dialect c.whenTrue) (contentAlone dialect c.whenFalse)
    let d := ((reached.noting first).noting second).emit part
    empty.lexemes dialect (before ++ c.lexemes ++ after) = d.lexemes dialect after ∧
      d.frame = none ∧ d.title = reached.title ∧ d.sections = reached.sections ∧
      d.current = reached.current.map (fun s => { s with parts := s.parts ++ [part] }) ∧
      d.description = reached.description ++ (if reached.current.isSome then [] else [part]) ∧
      d.diagnostics = reached.diagnostics ++ first.diagnostics ++ second.diagnostics ∧
      ∀ x ∈ first.diagnostics ++ second.diagnostics, x.problem.isUnclosed = false := by
  intro reached first second part d
  have quiet : reached.paragraph = none := moves_abandonFrame.paragraph paragraph_lexemes
  have free : reached.frame = none := frame_abandonFrame
  have free' : ((reached.noting first).noting second).frame = none := free
  obtain ⟨code, hcode, hm⟩ := Lexeme.exists_code c.opening_marker
  obtain ⟨between, loose, loose'⟩ := @lexemes_between reached dialect after c
    ⟨.ofList c.expression, none, none, none⟩ c.opening.span quiet
  have hpart : part = .condition ⟨.ofList c.expression, none, none, none⟩ first.description
      second.description := by
    rw [← contentAlone_eq loose, ← contentAlone_eq loose']
  have same : { (reached.noting first).noting second with frame := none } =
      (reached.noting first).noting second := by
    rw [← free']
  have hclose := @canClose_between after c
  have read : empty.lexemes dialect (before ++ c.lexemes ++ after) = d.lexemes dialect after := by
    rw [List.append_assoc, Bracketed.lexemes, List.cons_append, List.append_assoc,
      List.append_assoc, List.singleton_append,
      lexemes_append_opening hcode (startsCondition_of_opening hm),
      lexemes_opening paragraph_lexemes c.opening_marker c.expression_ne_nil hclose,
      enclose_empty quiet, between, same, ← hpart]
  have content : d = _ := emit_of_none free'
  refine ⟨read, ?_⟩
  rw [content]
  refine ⟨free, rfl, rfl, rfl, rfl, rfl, fun x hx => ?_⟩
  exact (List.mem_append.1 hx).elim (loose.closed x) (loose'.closed x)

end Draft

/-- A condition with a way on and with code that has no meaning in its first branch. -/
def torchOrDark : Bracketed where
  opening := ⟨.code "\x7btorch\x7d > 0 \x7b".toList, ⟨10, 25⟩, false, false⟩
  expression := "\x7btorch\x7d > 0".toList
  whenTrue := [
    ⟨.text "You see a ".toList, ⟨26, 36⟩, false, false⟩,
    ⟨.code "door".toList, ⟨36, 42⟩, false, false⟩,
    ⟨.code "->[Open](#hall)".toList, ⟨43, 60⟩, false, false⟩]
  second := some (⟨.code "\x7d:\x7b".toList, ⟨61, 66⟩, false, false⟩,
    [⟨.text "It is dark.".toList, ⟨67, 78⟩, false, false⟩])
  closing := ⟨.code "\x7d".toList, ⟨79, 82⟩, false, false⟩
  opening_marker := by decide +kernel
  expression_ne_nil := by decide +kernel
  whenTrue_inner := by decide +kernel
  second_marker := by decide +kernel
  second_inner := by decide +kernel
  closing_marker := by decide +kernel

/-- A condition before it is still open when it starts. -/
theorem Draft.lexemes_bracketed_torchOrDark :
    let before : List Lexeme := [
      ⟨.code "\x7brope\x7d > 0 \x7b".toList, ⟨0, 8⟩, false, false⟩,
      ⟨.code "->[Climb](#cave)".toList, ⟨8, 9⟩, false, false⟩]
    let d := empty.lexemes .chapter (before ++ torchOrDark.lexemes)
    d.frame = none ∧ d.description = [
      .condition ⟨"\x7brope\x7d > 0", none, none, none⟩ [.navigation "Climb" "#cave"] [],
      .condition ⟨"\x7btorch\x7d > 0", none, none, none⟩
        [.paragraph "You see a" none, keptCode "door".toList, .navigation "Open" "#hall"]
        [.paragraph "It is dark." none]] := by
  intro before d
  obtain ⟨read, frame, -, -, -, description, -, -⟩ :=
    lexemes_bracketed .chapter before [] torchOrDark
  rw [List.append_nil] at read
  have e : d = _ := read
  rw [e]
  refine ⟨frame, description.trans ?_⟩
  rfl

end Markup

end Gamebook
