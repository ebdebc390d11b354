import Gamebook.Proofs.PartText

/-!
# Putting parts together

The tokens of a part add the part to a draft, wherever the draft takes content and whatever lexemes
come after them; besides that they note only places. Main definition: `Takes`. Main statement:
`Takes.parts`.
-/

namespace Gamebook

open Markup

namespace Markup

namespace OpenCondition

/-- Adds parts to the branch that is open. -/
def addAll (parts : List Part) (c : OpenCondition) : OpenCondition :=
  if c.inElse then { c with whenFalse := c.whenFalse ++ parts }
  else { c with whenTrue := c.whenTrue ++ parts }

/-- Adding no part changes nothing. -/
lemma addAll_nil {c : OpenCondition} : c.addAll [] = c := by
  rw [addAll, List.append_nil, List.append_nil, ite_self]

/-- Parts are added one after the other. -/
lemma addAll_cons {c : OpenCondition} {part parts} :
    c.addAll (part :: parts) = (c.add part).addAll parts := by
  obtain ⟨condition, inElse, whenTrue, whenFalse, span⟩ := c
  cases inElse <;> simp [addAll, add]

end OpenCondition

namespace Draft

variable {d : Draft} {part : Part} {parts : List Part}

/-- A draft without its notes on places. -/
def bare (d : Draft) : Draft :=
  { d with headings := [], targets := [], diagnostics := [] }

/-- Adds parts where they belong. -/
def emitAll (parts : List Part) (d : Draft) : Draft :=
  parts.foldl (fun d part => d.emit part) d

/-- Content does not depend on the notes. -/
lemma emit_bare : (d.emit part).bare = d.bare.emit part := by
  obtain ⟨title, description, sections, current, paragraph, frame, headings, targets,
    diagnostics⟩ := d
  cases frame <;> cases current <;> rfl

/-- Content does not open or close a paragraph. -/
lemma emit_paragraph : (d.emit part).paragraph = d.paragraph := by
  obtain ⟨title, description, sections, current, paragraph, frame, headings, targets,
    diagnostics⟩ := d
  cases frame <;> cases current <;> rfl

/-- Content does not open or close a condition. -/
lemma emit_frame (h : d.frame = none) : (d.emit part).frame = none := by
  obtain ⟨title, description, sections, current, paragraph, frame, headings, targets,
    diagnostics⟩ := d
  obtain rfl : frame = none := h
  cases current <;> rfl

/-- Parts are added to the open condition. -/
lemma emitAll_frame {frame} (h : d.frame = some frame) :
    d.emitAll parts = { d with frame := some (frame.addAll parts) } := by
  induction parts generalizing d frame with
  | nil =>
    rw [OpenCondition.addAll_nil, ← h]
    rfl
  | cons part parts ih =>
    have hemit : d.emit part = { d with frame := some (frame.add part) } := by
      rw [emit, h]
    rw [emitAll, List.foldl_cons, hemit, ← emitAll, ih rfl, OpenCondition.addAll_cons]

/-- Parts are added to the current section. -/
lemma emitAll_current {s : Section} (hframe : d.frame = none) (h : d.current = some s) :
    d.emitAll parts = { d with current := some { s with parts := s.parts ++ parts } } := by
  induction parts generalizing d s with
  | nil =>
    rw [List.append_nil, ← h]
    rfl
  | cons part parts ih =>
    have hemit :
        d.emit part = { d with current := some { s with parts := s.parts ++ [part] } } := by
      rw [emit, hframe, h]
    have := @ih (d.emit part) { s with parts := s.parts ++ [part] } (by rw [hemit, hframe])
      (by rw [hemit])
    rw [emitAll, List.foldl_cons, ← emitAll, this, hemit]
    simp

/-- Parts are added to the description. -/
lemma emitAll_description (hframe : d.frame = none) (h : d.current = none) :
    d.emitAll parts = { d with description := d.description ++ parts } := by
  induction parts generalizing d with
  | nil =>
    rw [List.append_nil]
    rfl
  | cons part parts ih =>
    have hemit : d.emit part = { d with description := d.description ++ [part] } := by
      rw [emit, hframe, h]
    have := @ih (d.emit part) (by rw [hemit, hframe]) (by rw [hemit, h])
    rw [emitAll, List.foldl_cons, ← emitAll, this, hemit]
    simp

/-- A draft without an open paragraph is settled. -/
lemma settle_of_paragraph {rest} (h : d.paragraph = none) : d.settle rest = d := by
  have hflush : d.flush = d := by
    rw [flush, h]
  rw [settle, hflush, ite_self]

/-- A lexeme is read by itself unless it is an image before a comment. -/
lemma lexemes_cons {dialect} {l : Lexeme} {rest}
    (h : (∀ alt url, l.token ≠ .image alt url) ∨
      ∀ l' ∈ rest.head?, ∀ text, l'.token ≠ .comment text) :
    d.lexemes dialect (l :: rest) =
      ((d.lexeme dialect l rest).settle rest).lexemes dialect rest := by
  -- only the left side is unfolded, the reading of the rest stays as it is
  conv =>
    lhs
    unfold lexemes
  split
  · next e => cases e
  · next alt url _ _ _ text _ _ _ rest' e =>
    obtain ⟨rfl, rfl⟩ := List.cons.inj e
    obtain h | h := h
    · exact (h alt url rfl).elim
    · exact (h _ rfl text rfl).elim
  · next l' rest' _ e =>
    obtain ⟨rfl, rfl⟩ := List.cons.inj e
    rfl

end Draft

/-- Whether lexemes that show some tokens, whatever comes after them, change every draft of a kind
in some way, up to its notes on places. -/
def Takes (dialect : Dialect) (P : Draft → Prop) (ts : List Shown) (f : Draft → Draft) : Prop :=
  ∀ (d : Draft) (ls rest : List Lexeme), P d.bare → ls.map Lexeme.shown = ts →
    ∃ d' : Draft, d.lexemes dialect (ls ++ rest) = d'.lexemes dialect rest ∧ d'.bare = f d.bare

/-- Whether no paragraph is open. -/
def Draft.Quiet (d : Draft) : Prop :=
  d.paragraph = none

/-- Whether neither a paragraph nor a condition is open. -/
def Draft.Free (d : Draft) : Prop :=
  d.paragraph = none ∧ d.frame = none

/-- A lexeme that shows a token has it. -/
lemma Lexeme.token_of_shown {l : Lexeme} {t quoting} (h : l.shown = (t, quoting)) : l.token = t :=
  congrArg Prod.fst h

/-- A lexeme that shows a text is set apart as it shows. -/
lemma Lexeme.quotingOf_of_shown {l : Lexeme} {text quoting} (h : l.shown = (.text text, quoting)) :
    quotingOf l = quoting := by
  have htoken := token_of_shown h
  have hquoting := congrArg Prod.snd h
  rw [shown] at hquoting
  simpa only [htoken] using hquoting

/-- A break is skipped. -/
lemma Draft.lexemes_break {dialect} {d : Draft} {l : Lexeme} {rest} (hd : d.paragraph = none)
    (hl : l.shown = (.break, none)) : d.lexemes dialect (l :: rest) = d.lexemes dialect rest := by
  rw [lexemes_cons (by rw [Lexeme.token_of_shown hl]; exact .inl (by rintro _ _ ⟨⟩)), lexeme,
    Lexeme.token_of_shown hl, settle_of_paragraph hd]

/-- A plain image is added as it is written. -/
lemma Draft.image_eq {d : Draft} {text : String} {url description}
    (h : (url.all fun url => Text.isName url.toList) = true) :
    d.image text.toList (url.getD "").toList description =
      d.emit (.image ⟨text, url, description.map .ofList⟩) := by
  have hurl : (if (url.getD "").toList.isEmpty then none else some (.ofList (url.getD "").toList)) =
      url := by
    cases url with
    | none => rfl
    | some url =>
      obtain ⟨c, cs, e, -⟩ := @isContentStart_of_isName url.toList h
      rw [Option.getD_some, String.ofList_toList, e]
      rfl
  rw [image, hurl, String.ofList_toList]

/-- The text and the target of a way on are read off its code. -/
lemma navigation?_labelText {text address} (ht : Text.Plain text)
    (ha : ∀ c ∈ address, isAddressChar c = true) :
    navigation? ('-' :: '>' :: '[' :: Inlines.labelText text address) = some (text, address) := by
  have htext : Text.cutAtFirst? ']' (text ++ ']' :: '(' :: (address ++ [')'])) =
      some (text, '(' :: (address ++ [')'])) :=
    Text.cutAtFirst?_append fun h => absurd (ht.chars ']' h) (by decide)
  have haddress : Text.cutAtFirst? ')' (address ++ [')']) = some (address, []) :=
    Text.cutAtFirst?_append fun h => absurd (ha ')' h) (by decide)
  rw [navigation?, Inlines.labelText]
  simp only [Text.dropPrefix?, if_true, Option.bind_eq_bind, Option.bind_some,
    show Text.isBlank '[' = false from rfl, Bool.false_eq_true, if_false, htext, haddress]

namespace Takes

variable {dialect : Dialect} {P Q : Draft → Prop} {ts ts' : List Shown} {f g : Draft → Draft}

/-- No token changes nothing. -/
lemma nil : Takes dialect P [] id := by
  intro d ls rest _ hls
  rw [List.map_eq_nil_iff.1 hls]
  exact ⟨d, rfl, rfl⟩

/-- The drafts before tokens may be restricted. -/
lemma imp (h : Takes dialect P ts f) (hP : ∀ d, Q d → P d) : Takes dialect Q ts f :=
  fun d ls rest hd hls => h d ls rest (hP _ hd) hls

/-- Tokens are taken one after the other. -/
lemma append (h : Takes dialect P ts f) (h' : Takes dialect Q ts' g) (hQ : ∀ d, P d → Q (f d)) :
    Takes dialect P (ts ++ ts') (g ∘ f) := by
  intro d ls rest hd hls
  obtain ⟨ls, ls', rfl, hls, hls'⟩ := List.map_eq_append_iff.1 hls
  obtain ⟨d', e, hd'⟩ := h d ls (ls' ++ rest) hd hls
  obtain ⟨d'', e', hd''⟩ := h' d' ls' rest (by rw [hd']; exact hQ _ hd) hls'
  exact ⟨d'', by rw [List.append_assoc, e, e'], by rw [hd'', hd']; rfl⟩

/-- A token is taken if its lexeme changes the draft so, and leaves no paragraph open. -/
lemma single {token quoting} (htoken : ∀ alt url, token ≠ .image alt url)
    (h : ∀ (d : Draft) (l : Lexeme) rest, P d.bare → l.shown = (token, quoting) →
      (d.lexeme dialect l rest).bare = f d.bare ∧ (d.lexeme dialect l rest).paragraph = none) :
    Takes dialect P [(token, quoting)] f := by
  intro d ls rest hd hls
  obtain ⟨l, ls, rfl, hl, hls⟩ := List.map_eq_cons_iff.1 hls
  rw [List.map_eq_nil_iff.1 hls, List.singleton_append]
  obtain ⟨hbare, hparagraph⟩ := h d l rest hd hl
  refine ⟨d.lexeme dialect l rest, ?_, hbare⟩
  rw [Draft.lexemes_cons (.inl fun alt url e =>
    htoken alt url ((Lexeme.token_of_shown hl).symm.trans e)), Draft.settle_of_paragraph hparagraph]

/-- A token that adds a part is taken. -/
lemma emit {token quoting part} (htoken : ∀ alt url, token ≠ .image alt url)
    (h : ∀ (d : Draft) (l : Lexeme) rest, P d.bare → l.token = token →
      ∃ d' : Draft, d.lexeme dialect l rest = d'.emit part ∧ d'.bare = d.bare)
    (hP : ∀ d, P d → d.paragraph = none) :
    Takes dialect P [(token, quoting)] (Draft.emit part) := by
  refine single htoken fun d l rest hd hl => ?_
  obtain ⟨d', e, hd'⟩ := h d l rest hd (Lexeme.token_of_shown hl)
  have hparagraph : d'.bare.paragraph = none := by
    rw [hd']
    exact hP _ hd
  rw [e]
  exact ⟨by rw [Draft.emit_bare, hd'], Draft.emit_paragraph.trans hparagraph⟩

/-- A break changes nothing. -/
lemma pause (hP : ∀ d, P d → d.paragraph = none) : Takes dialect P [(.break, none)] id := by
  intro d ls rest hd hls
  have hparagraph : d.bare.paragraph = none := hP _ hd
  obtain ⟨l, ls, rfl, hl, hls⟩ := List.map_eq_cons_iff.1 hls
  rw [List.map_eq_nil_iff.1 hls]
  exact ⟨d, Draft.lexemes_break hparagraph hl, rfl⟩

/-- A comment is added. -/
lemma comment {text : String} :
    Takes dialect Draft.Quiet [(.comment text.toList, none)] (Draft.emit (.comment text)) := by
  refine emit (by rintro _ _ ⟨⟩) (fun d l rest _ hl => ⟨d, ?_, rfl⟩) fun _ => id
  rw [Draft.lexeme, hl]
  simp only [String.ofList_toList]

/-- A link is added. -/
lemma link {l : Link} (h : l.key = none) :
    Takes dialect Draft.Quiet [(.link l.text.toList l.target.toList, none)]
      (Draft.emit (.link l)) := by
  refine emit (by rintro _ _ ⟨⟩) (fun d lexeme rest _ hl =>
    ⟨d.noteTarget l.target lexeme.span, ?_, rfl⟩) fun _ => id
  obtain ⟨text, target, key⟩ := l
  obtain rfl : key = none := h
  rw [Draft.lexeme, hl]
  simp only [String.ofList_toList]

/-- The block of a plain action is added as the action. -/
lemma action {info} {a : Action} (h : a.isPlain = true) :
    Takes dialect Draft.Quiet [(.fence info (a.state.toJson.prettyChars 0 ++ ['\n']), none)]
      (Draft.emit (.action a)) := by
  refine emit (by rintro _ _ ⟨⟩) (fun d l rest _ hl => ⟨d, ?_, rfl⟩) fun _ => id
  have herror : a.error = none := by
    simp only [Action.isPlain, Bool.and_eq_true, Option.isNone_iff_eq_none] at h
    exact h.2
  rw [Draft.lexeme, hl]
  simp only [Draft.fence, actionOf_prettyChars h, herror]

/-- A way on is added. -/
lemma navigation {text target : String} (ht : Text.Plain text.toList)
    (ha : ∀ c ∈ target.toList, isAddressChar c = true) :
    Takes dialect Draft.Quiet
      [(.code ('-' :: '>' :: '[' :: Inlines.labelText text.toList target.toList), none)]
      (Draft.emit (.navigation text target)) := by
  refine emit (by rintro _ _ ⟨⟩) (fun d l rest _ hl => ⟨d.noteTarget target l.span, ?_, rfl⟩)
    fun _ => id
  have hcode : Marker.ofCode ('-' :: '>' :: '[' :: Inlines.labelText text.toList target.toList) =
      .navigation text.toList target.toList := by
    rw [Marker.ofCode, navigation?_labelText ht ha]
  rw [Draft.lexeme, hl]
  simp only [Draft.code, hcode, String.ofList_toList]

/-- A text before a break is added as a paragraph. -/
lemma paragraph {text : String} {quoting} (h : Text.Plain text.toList) :
    Takes dialect Draft.Quiet [(.text text.toList, quoting), (.break, none)]
      (Draft.emit (.paragraph text quoting)) := by
  intro d ls rest hd hls
  obtain ⟨l, ls, rfl, hl, hls⟩ := List.map_eq_cons_iff.1 hls
  obtain ⟨l', ls, rfl, hl', hls⟩ := List.map_eq_cons_iff.1 hls
  rw [List.map_eq_nil_iff.1 hls]
  have hd : d.paragraph = none := hd
  have htrim := (noted_of_plain h).trim
  have hcontinues : continuesParagraph (l' :: rest) = false := by
    obtain ⟨token, span, quoted, listed⟩ := l'
    obtain rfl : token = .break := Lexeme.token_of_shown hl'
    rfl
  have hopen : d.lexeme dialect l (l' :: rest) =
      { d with paragraph := some ⟨text.toList, quoting⟩ } := by
    rw [Draft.lexeme, Lexeme.token_of_shown hl]
    simp only [Draft.addText, hd, Lexeme.quotingOf_of_shown hl]
  -- the break after the text closes the paragraph that the text has opened
  have htext : (d.lexeme dialect l (l' :: rest)).settle (l' :: rest) =
      d.emit (.paragraph text quoting) := by
    rw [hopen, Draft.settle, hcontinues, if_neg Bool.false_ne_true, Draft.flush]
    simp only [htrim]
    rw [← hd]
    split
    · next e => exact (h.ne e).elim
    · rw [String.ofList_toList]
  refine ⟨d.emit (.paragraph text quoting), ?_, Draft.emit_bare⟩
  rw [List.cons_append, List.singleton_append, Draft.lexemes_cons, htext,
    Draft.lexemes_break (Draft.emit_paragraph.trans hd) hl']
  rw [Lexeme.token_of_shown hl]
  exact .inl (by rintro _ _ ⟨⟩)

/-- An image is added, with the comment after it as its description. -/
lemma image {i : Image} (h : i.isPlain = true) :
    Takes dialect Draft.Quiet (i.shown ++ [(.break, none)]) (Draft.emit (.image i)) := by
  obtain ⟨text, url, description⟩ := i
  simp only [Image.isPlain, Bool.and_eq_true] at h
  intro d ls rest hd hls
  have hquiet : ∀ part, (d.emit part).paragraph = none := fun part => Draft.emit_paragraph.trans hd
  refine ⟨d.emit (.image ⟨text, url, description⟩), ?_, Draft.emit_bare⟩
  cases description with
  | none =>
    obtain ⟨l, ls, rfl, hl, hls⟩ := List.map_eq_cons_iff.1 hls
    obtain ⟨l', ls, rfl, hl', hls⟩ := List.map_eq_cons_iff.1 hls
    rw [List.map_eq_nil_iff.1 hls, List.cons_append, List.singleton_append, Draft.lexemes_cons,
      Draft.lexeme, Lexeme.token_of_shown hl]
    · simp only [Draft.image_eq h.1.2, Option.map_none]
      rw [Draft.settle_of_paragraph (hquiet _), Draft.lexemes_break (hquiet _) hl']
    · refine .inr fun next hnext text => ?_
      obtain rfl := Option.some.inj hnext
      rw [Lexeme.token_of_shown hl']
      rintro ⟨⟩
  | some note =>
    obtain ⟨⟨token, span, quoted, listed⟩, ls, rfl, hl, h₁⟩ := List.map_eq_cons_iff.1 hls
    obtain ⟨⟨token', span', quoted', listed'⟩, ls, rfl, hl', h₂⟩ := List.map_eq_cons_iff.1 h₁
    obtain ⟨l'', ls, rfl, hl'', h₃⟩ := List.map_eq_cons_iff.1 h₂
    obtain rfl : token = .image text.toList (url.getD "").toList := Lexeme.token_of_shown hl
    obtain rfl : token' = .comment note.toList := Lexeme.token_of_shown hl'
    rw [List.map_eq_nil_iff.1 h₃, List.cons_append, List.cons_append, List.singleton_append,
      Draft.lexemes, Draft.image_eq h.1.2, Option.map_some, String.ofList_toList,
      Draft.settle_of_paragraph (hquiet _), Draft.lexemes_break (hquiet _) hl'']

/-- A heading of the second level is added to scenes as a header. -/
lemma header {text : String} :
    Takes .scene Draft.Free [(.heading 2 text.toList none, none)] (Draft.emit (.header text)) := by
  refine emit (by rintro _ _ ⟨⟩) (fun d l rest hd hl => ⟨d, ?_, rfl⟩) fun _ hd => hd.1
  have hparagraph : d.paragraph = none := hd.1
  have hframe : d.frame = none := hd.2
  have hflush : d.flush.abandonFrame .heading = d := by
    rw [Draft.flush, hparagraph]
    simp only [Draft.abandonFrame, hframe]
  rw [Draft.lexeme, hl]
  simp only [Draft.heading, hflush, String.ofList_toList]
  rfl

/-- A plain part that is neither a header nor a condition is added. -/
lemma simple {part : Part} (h : part.isSimple = true) :
    Takes dialect Draft.Quiet part.shown (Draft.emit part) := by
  have hquiet : ∀ part d, Draft.Quiet d → Draft.Quiet (d.emit part) :=
    fun _ _ hd => Draft.emit_paragraph.trans hd
  have hpause : ∀ {ts part}, Takes dialect Draft.Quiet ts (Draft.emit part) →
      Takes dialect Draft.Quiet (ts ++ [(.break, none)]) (Draft.emit part) :=
    fun h => h.append (pause fun _ => id) (hquiet _)
  cases part with
  | header text => cases h
  | condition c whenTrue whenFalse => cases h
  | link l =>
    simp only [Part.isSimple, Bool.and_eq_true, Option.isNone_iff_eq_none] at h
    exact hpause (link h.2)
  | image i => exact image h
  | paragraph text quoting => exact paragraph (Text.plain_of_isProse h)
  | comment text => exact comment
  | navigation text target =>
    simp only [Part.isSimple, Bool.and_eq_true] at h
    exact hpause (navigation (Text.plain_of_isProse h.1) (isAddressChar_of_isTarget h.2))
  | action a => exact hpause (action h)

/-- Parts that are added each are added in order. -/
lemma all {parts : List Part} (hP : ∀ part d, P d → P (d.emit part))
    (h : ∀ part ∈ parts, Takes dialect P part.shown (Draft.emit part)) :
    Takes dialect P (Part.shownAll parts) (Draft.emitAll parts) := by
  induction parts with
  | nil => exact nil
  | cons part parts ih =>
    exact (h part List.mem_cons_self).append (ih fun p hp => h p (List.mem_cons_of_mem part hp))
      (hP part)

/-- Plain parts that are neither headers nor conditions are added in order. -/
lemma simples {parts : List Part} (h : parts.all Part.isSimple = true) :
    Takes dialect Draft.Quiet (Part.shownAll parts) (Draft.emitAll parts) :=
  all (fun _ _ hd => Draft.emit_paragraph.trans hd)
    fun part hpart => simple (List.all_eq_true.1 h part hpart)

end Takes

section Markers

/-- The code before a condition is its expression and an opening brace. -/
lemma Marker.ofCode_comparison {cs} (h : Text.isComparison cs = true) :
    Marker.ofCode (cs ++ [' ', '{']) = .opening cs := by
  obtain ⟨name, -, rfl⟩ := Text.exists_of_isComparison h
  have hend : Text.trimEnd ('{' :: (name ++ "\x7d > 1".toList) ++ [' ', '{']) =
      '{' :: (name ++ "\x7d > 1".toList) ++ [' '] ++ ['{'] := by
    rw [← Text.trimEnd_concat (by decide : Text.isBlank '{' = false), List.append_assoc,
      List.singleton_append]
  have htrim : Text.trim ('{' :: (name ++ "\x7d > 1".toList) ++ [' ']) =
      '{' :: (name ++ "\x7d > 1".toList) := by
    refine Text.trim_between [] [' '] (List.forall_mem_nil _) (List.all_eq_true.1 rfl)
      (List.cons_ne_nil _ _) ?_ ?_
    · rintro c ⟨⟩
      rfl
    · intro c hc
      obtain rfl : '1' = c := by simpa [List.getLast?_cons, List.getLast?_append] using hc
      rfl
  have hstart : conditionStart? ('{' :: (name ++ "\x7d > 1".toList) ++ [' ', '{']) =
      some ('{' :: (name ++ "\x7d > 1".toList)) := by
    rw [conditionStart?, hend, Text.dropSuffix?_append, Option.map_some, htrim]
  have helse : isElseSign ('{' :: (name ++ "\x7d > 1".toList) ++ [' ', '{']) = false := by
    rw [isElseSign, List.cons_append, Text.removeBlanks, List.filter_cons_of_pos (by decide)]
    rfl
  rw [ofCode, hstart, helse]
  rfl

/-- A way on starts no condition. -/
lemma startsCondition_labelText {text address} :
    startsCondition ('-' :: '>' :: '[' :: Inlines.labelText text address) = false := by
  have e : '-' :: '>' :: '[' :: Inlines.labelText text address =
      '-' :: '>' :: '[' :: (text ++ ']' :: '(' :: address) ++ [')'] := by
    simp [Inlines.labelText]
  have hstart : conditionStart? ('-' :: '>' :: '[' :: Inlines.labelText text address) = none := by
    rw [conditionStart?, e, Text.trimEnd_concat (by decide), Text.dropSuffix?, List.reverse_append]
    rfl
  rw [startsCondition, hstart, Option.isSome_none, Bool.and_false]

end Markers

/-- Whether no code among some tokens starts a condition. -/
def Unopening (ts : List Shown) : Prop :=
  ∀ code quoting, (.code code, quoting) ∈ ts → startsCondition code = false

namespace Unopening

variable {ts ts' : List Shown}

/-- Without tokens there is no code. -/
lemma nil : Unopening [] := by
  rintro _ _ ⟨⟩

/-- The codes of lists of tokens are the codes of both. -/
lemma append (h : Unopening ts) (h' : Unopening ts') : Unopening (ts ++ ts') := by
  intro code quoting hmem
  exact (List.mem_append.1 hmem).elim (h code quoting) (h' code quoting)

/-- A break is no code. -/
lemma pause : Unopening [(.break, none)] := by
  intro code quoting hmem
  cases List.mem_singleton.1 hmem

/-- Code that starts no condition is no start of a condition. -/
lemma code {code} (h : startsCondition code = false) : Unopening (codeShown code) := by
  intro code' quoting hmem
  obtain hmem | hmem := List.mem_cons.1 hmem
  · cases hmem
    exact h
  · exact pause code' quoting hmem

/-- A way on in plain parts starts no condition. -/
lemma shown {part : Part} (h : part.isSimple = true) : Unopening part.shown := by
  intro code quoting hmem
  cases part with
  | header text => cases h
  | condition c whenTrue whenFalse => cases h
  | navigation text target =>
    exact Unopening.code startsCondition_labelText code quoting hmem
  | image i =>
    obtain ⟨text, url, description⟩ := i
    cases description <;> simp [Part.shown, Image.shown] at hmem
  | _ => simp [Part.shown] at hmem

/-- The ways on in plain parts start no condition. -/
lemma shownAll {parts : List Part} (h : parts.all Part.isSimple = true) :
    Unopening (Part.shownAll parts) := by
  induction parts with
  | nil => exact .nil
  | cons part parts ih =>
    rw [List.all_cons, Bool.and_eq_true] at h
    exact (shown h.1).append (ih h.2)

/-- The first code that comes next starts no condition. -/
lemma nextCode? {ls rest : List Lexeme} {code quoting} (h : Unopening (ls.map Lexeme.shown))
    (hmem : (.code code, quoting) ∈ ls.map Lexeme.shown) :
    ∃ found, nextCode? (ls ++ rest) = some found ∧ startsCondition found = false := by
  induction ls with
  | nil => cases hmem
  | cons l ls ih =>
    obtain ⟨token, span, quoted, listed⟩ := l
    have htail : Unopening (ls.map Lexeme.shown) :=
      fun code quoting hmem => h code quoting (List.mem_cons_of_mem _ hmem)
    cases token with
    | code found => exact ⟨found, rfl, h found none List.mem_cons_self⟩
    | _ => exact ih htail ((List.mem_cons.1 hmem).resolve_left (by rintro ⟨⟩))

/-- After a break a condition is not closed before other code than the start of another one. -/
lemma closeLast {l : Lexeme} {ls ls' rest : List Lexeme} {code quoting}
    (hl : l.shown = (.break, none)) (h : Unopening (ls.map Lexeme.shown))
    (h' : Unopening (ls'.map Lexeme.shown)) (hmem : (.code code, quoting) ∈ ls'.map Lexeme.shown)
    (d : Draft) : d.closeLast (l :: (ls ++ (ls' ++ rest))) = d := by
  have hunopening : Unopening ((l :: ls ++ ls').map Lexeme.shown) := by
    rw [List.map_append, List.map_cons, hl]
    exact append (@append [(.break, none)] _ pause h) h'
  have hcode : (.code code, quoting) ∈ (l :: ls ++ ls').map Lexeme.shown := by
    rw [List.map_append]
    exact List.mem_append_right _ hmem
  obtain ⟨found, hfound, hstarts⟩ := @nextCode? _ rest code quoting hunopening hcode
  rw [List.append_assoc, List.cons_append] at hfound
  rw [Draft.closeLast, hfound]
  simp only [hstarts, Bool.false_eq_true, if_false]

end Unopening

namespace Draft

variable {dialect : Dialect} {d : Draft} {l l' : Lexeme} {rest : List Lexeme}
  (hd : d.paragraph = none) (hl' : l'.shown = (.break, none))

include hl' in
/-- Code in a line of its own is read at once. -/
lemma lexemes_code {d' : Draft} {cs} (hl : l.shown = (.code cs, none))
    (hcode : d.lexeme dialect l (l' :: rest) = d') (hd' : d'.paragraph = none) :
    d.lexemes dialect (l :: l' :: rest) = d'.lexemes dialect rest := by
  rw [lexemes_cons (by rw [Lexeme.token_of_shown hl]; exact .inl (by rintro _ _ ⟨⟩)), hcode,
    settle_of_paragraph hd', lexemes_break hd' hl']

include hd hl'

/-- A comparison before a brace opens a condition. -/
lemma lexemes_opener {expression : String} (hframe : d.frame = none)
    (h : Text.isComparison expression.toList = true)
    (hl : l.shown = (.code (expression.toList ++ [' ', '{']), none))
    (hclose : ∀ d : Draft, d.closeLast (l' :: rest) = d) :
    d.lexemes dialect (l :: l' :: rest) =
      { d with frame := some (.start ⟨expression, none, none, none⟩ l.span) }.lexemes dialect
        rest := by
  have hcode : d.lexeme dialect l (l' :: rest) =
      { d with frame := some (.start ⟨expression, none, none, none⟩ l.span) } := by
    obtain ⟨name, -, e⟩ := Text.exists_of_isComparison h
    have habandon : d.abandonFrame .condition = d := by
      rw [abandonFrame, hframe]
    rw [lexeme, Lexeme.token_of_shown hl]
    simp only [code, Marker.ofCode_comparison h, openFrame, habandon, hclose]
    split
    · next e' =>
      rw [e] at e'
      cases e'
    · rw [String.ofList_toList]
  exact lexemes_code hl' hl hcode hd

/-- An else sign goes on with the second branch. -/
lemma lexemes_otherwise {frame : OpenCondition} (hframe : d.frame = some frame)
    (helse : frame.inElse = false) (hl : l.shown = (.code ['}', ':', '{'], none))
    (hclose : ∀ d : Draft, d.closeLast (l' :: rest) = d) :
    d.lexemes dialect (l :: l' :: rest) =
      { d with frame := some { frame with inElse := true } }.lexemes dialect rest := by
  have hcode : d.lexeme dialect l (l' :: rest) =
      { d with frame := some { frame with inElse := true } } := by
    rw [lexeme, Lexeme.token_of_shown hl]
    simp only [code, show Marker.ofCode ['}', ':', '{'] = .otherwise from rfl, enterElse, hframe,
      helse, hclose]
    rfl
  exact lexemes_code hl' hl hcode hd

/-- A closing brace adds the open condition. -/
lemma lexemes_closing {frame : OpenCondition} (hframe : d.frame = some frame)
    (hl : l.shown = (.code ['}'], none)) :
    d.lexemes dialect (l :: l' :: rest) =
      ({ d with frame := none }.emit frame.toPart).lexemes dialect rest := by
  have hquiet : ({ d with frame := none }.emit frame.toPart).paragraph = none :=
    emit_paragraph.trans hd
  have hcode : d.lexeme dialect l (l' :: rest) = { d with frame := none }.emit frame.toPart := by
    rw [lexeme, Lexeme.token_of_shown hl]
    simp only [code, show Marker.ofCode ['}'] = .closing from rfl, closeFrame, hframe]
    rfl
  exact lexemes_code hl' hl hcode hquiet

end Draft

/-- The second branch of a condition is added after the first one. -/
lemma lexemes_second {dialect} {d : Draft} {frame : OpenCondition} {part parts ls ls' rest}
    {code quoting} (hd : d.paragraph = none) (hframe : d.frame = some frame)
    (hempty : frame.inElse = false ∧ frame.whenFalse = [])
    (hfalse : (part :: parts).all Part.isSimple = true)
    (hls : ls.map Lexeme.shown = codeShown ['}', ':', '{'] ++ Part.shownAll (part :: parts))
    (hls' : Unopening (ls'.map Lexeme.shown))
    (hmem : (.code code, quoting) ∈ ls'.map Lexeme.shown) :
    ∃ d' : Draft, d.lexemes dialect (ls ++ (ls' ++ rest)) = d'.lexemes dialect (ls' ++ rest) ∧
      d'.bare = { d.bare with
        frame := some ⟨frame.condition, true, frame.whenTrue, part :: parts, frame.span⟩ } := by
  obtain ⟨condition, inElse, whenTrue, _, span⟩ := frame
  obtain ⟨rfl, rfl⟩ := hempty
  obtain ⟨l, e, rfl, hl, h₁⟩ := List.map_eq_cons_iff.1 hls
  obtain ⟨l', e, rfl, hl', h₂⟩ := List.map_eq_cons_iff.1 h₁
  have hunopening : Unopening (e.map Lexeme.shown) := by
    rw [h₂]
    exact .shownAll hfalse
  have hclose := @Unopening.closeLast l' e ls' rest _ _ hl' hunopening hls' hmem
  have hotherwise := @Draft.lexemes_otherwise dialect d l l' _ hd hl' _ hframe rfl hl hclose
  let second : OpenCondition := ⟨condition, true, whenTrue, [], span⟩
  obtain ⟨d', e', hd'⟩ :=
    Takes.simples hfalse { d with frame := some second } e (ls' ++ rest) hd h₂
  refine ⟨d', hotherwise.trans e', ?_⟩
  rw [hd', @Draft.emitAll_frame _ _ second rfl]
  rfl

/-- The branches of a condition are added after its start. -/
lemma lexemes_branches {dialect} {d : Draft} {frame : OpenCondition}
    {whenTrue whenFalse ls ls' rest} {code quoting} (hd : d.paragraph = none)
    (hframe : d.frame = some frame)
    (hempty : frame.inElse = false ∧ frame.whenTrue = [] ∧ frame.whenFalse = [])
    (htrue : whenTrue.all Part.isSimple = true) (hfalse : whenFalse.all Part.isSimple = true)
    (hls : ls.map Lexeme.shown = Part.shownAll whenTrue ++
      if whenFalse.isEmpty then [] else codeShown ['}', ':', '{'] ++ Part.shownAll whenFalse)
    (hls' : Unopening (ls'.map Lexeme.shown))
    (hmem : (.code code, quoting) ∈ ls'.map Lexeme.shown) :
    ∃ (d' : Draft) (frame' : OpenCondition), d.lexemes dialect (ls ++ (ls' ++ rest)) =
      d'.lexemes dialect (ls' ++ rest) ∧ d'.bare = { d.bare with frame := some frame' } ∧
        frame'.toPart = .condition frame.condition whenTrue whenFalse := by
  obtain ⟨condition, inElse, _, _, span⟩ := frame
  obtain ⟨rfl, rfl, rfl⟩ := hempty
  obtain ⟨b, e, rfl, hb, he⟩ := List.map_eq_append_iff.1 hls
  obtain ⟨d₁, e₁, hd₁⟩ := Takes.simples htrue d b (e ++ (ls' ++ rest)) hd hb
  have hframe' : d.bare.frame = some ⟨condition, false, [], [], span⟩ := hframe
  rw [Draft.emitAll_frame hframe'] at hd₁
  rw [List.append_assoc, e₁]
  cases whenFalse with
  | nil =>
    rw [List.map_eq_nil_iff.1 he]
    exact ⟨d₁, _, rfl, hd₁, rfl⟩
  | cons part parts =>
    have hparagraph : d₁.paragraph = none := (congrArg Draft.paragraph hd₁).trans hd
    have hopen : d₁.frame = some ⟨condition, false, whenTrue, [], span⟩ := congrArg Draft.frame hd₁
    obtain ⟨d₂, e₂, hd₂⟩ := lexemes_second hparagraph hopen ⟨rfl, rfl⟩ hfalse he hls' hmem
    exact ⟨d₂, _, e₂, hd₂.trans (by rw [hd₁]), rfl⟩

namespace Takes

variable {dialect : Dialect}

/-- A condition of simple parts is added. -/
lemma condition {c : Condition} {whenTrue whenFalse : List Part} (hc : c.isPlain = true)
    (htrue : whenTrue.all Part.isSimple = true) (hfalse : whenFalse.all Part.isSimple = true) :
    Takes dialect Draft.Free (Part.condition c whenTrue whenFalse).shown
      (Draft.emit (.condition c whenTrue whenFalse)) := by
  obtain ⟨expression, audit, source, error⟩ := c
  simp only [Condition.isPlain, Bool.and_eq_true, Option.isNone_iff_eq_none] at hc
  obtain ⟨⟨⟨hexpression, rfl⟩, rfl⟩, rfl⟩ := hc
  intro d ls rest hd hls
  have hparagraph : d.paragraph = none := hd.1
  have hframe : d.frame = none := hd.2
  rw [Part.shown, List.append_assoc, List.append_assoc,
    ← List.append_assoc (Part.shownAll whenTrue)] at hls
  obtain ⟨a, ls, rfl, ha, h₁⟩ := List.map_eq_append_iff.1 hls
  obtain ⟨b, e, rfl, hb, he⟩ := List.map_eq_append_iff.1 h₁
  obtain ⟨l, a, rfl, hl, h₂⟩ := List.map_eq_cons_iff.1 ha
  obtain ⟨l', a, rfl, hl', h₃⟩ := List.map_eq_cons_iff.1 h₂
  obtain rfl := List.map_eq_nil_iff.1 h₃
  have hclosing : Unopening (e.map Lexeme.shown) := by
    rw [he]
    exact .code rfl
  have hmem : (.code ['}'], none) ∈ e.map Lexeme.shown := by
    rw [he]
    exact List.mem_cons_self
  have hbranches : Unopening (b.map Lexeme.shown) := by
    rw [hb]
    refine .append (.shownAll htrue) ?_
    split
    · exact .nil
    · exact .append (.code rfl) (.shownAll hfalse)
  have hclose := @Unopening.closeLast l' b e rest _ _ hl' hbranches hclosing hmem
  have hopener := @Draft.lexemes_opener dialect d l l' _ hparagraph hl' _ hframe hexpression
    hl hclose
  obtain ⟨d₁, frame, e₁, hd₁, hpart⟩ := @lexemes_branches dialect
    { d with frame := some (.start ⟨expression, none, none, none⟩ l.span) } _ _ _ b e rest _ _
    hparagraph rfl ⟨rfl, rfl, rfl⟩ htrue hfalse hb hclosing hmem
  obtain ⟨m, e, rfl, hm, h₄⟩ := List.map_eq_cons_iff.1 he
  obtain ⟨m', e, rfl, hm', h₅⟩ := List.map_eq_cons_iff.1 h₄
  obtain rfl := List.map_eq_nil_iff.1 h₅
  have hparagraph₁ : d₁.paragraph = none := (congrArg Draft.paragraph hd₁).trans hparagraph
  have hclosed := @Draft.lexemes_closing dialect d₁ m m' rest hparagraph₁ hm' _
    (congrArg Draft.frame hd₁) hm
  refine ⟨{ d₁ with frame := none }.emit frame.toPart, ?_, ?_⟩
  · simpa using hopener.trans (e₁.trans hclosed)
  · have hbare : { d₁ with frame := none }.bare = d.bare := by
      have : { d₁.bare with frame := none } = { d.bare with frame := none } := by
        rw [hd₁]
        rfl
      refine Eq.trans this ?_
      rw [← hframe]
      rfl
    rw [Draft.emit_bare, hbare, hpart]
    rfl

/-- A plain part is added. -/
lemma part {part : Part} (h : part.isPlain dialect = true) :
    Takes dialect Draft.Free part.shown (Draft.emit part) := by
  cases part with
  | header text =>
    simp only [Part.isPlain, Bool.and_eq_true, decide_eq_true_eq] at h
    obtain ⟨rfl, -⟩ := h
    exact header
  | condition c whenTrue whenFalse =>
    simp only [Part.isPlain, Bool.and_eq_true] at h
    exact condition h.1.1 h.1.2 h.2
  | _ =>
    refine (simple ?_).imp fun _ hd => hd.1
    exact h

/-- Plain parts are added in order. -/
lemma parts {parts : List Part} (h : parts.all (Part.isPlain dialect) = true) :
    Takes dialect Draft.Free (Part.shownAll parts) (Draft.emitAll parts) :=
  all (fun _ _ hd => ⟨Draft.emit_paragraph.trans hd.1, Draft.emit_frame hd.2⟩)
    fun p hp => part (List.all_eq_true.1 h p hp)

end Takes

end Markup

end Gamebook
