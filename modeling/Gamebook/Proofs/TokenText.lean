import Gamebook.Markup.Draft
import Gamebook.Proofs.InlineText

/-!
# Tokens of blocks

The tokens that running text and blocks add to the lexemes that are read before them, whatever these
are and wherever in the source the blocks stand. Main definitions: `Shown`, `Spells`, `Yields`. Main
statements: what each kind of block that stories are written with yields.
-/

namespace Gamebook.Markup

/-- A token, with the way it is set apart if it is text. -/
abbrev Shown :=
  Token × Option Quoting

/-- What a lexeme shows of its place. -/
def Lexeme.shown (l : Lexeme) : Shown :=
  (l.token,
    match l.token with
    | .text _ => quotingOf l
    | _ => none)

/-- Lexemes outside of headings, links and images. -/
def Lexemes.idle (done : List Lexeme) (quoted listed : Bool) : Lexemes :=
  ⟨done, quoted, listed, none, none, none⟩

/-- Whether lexemes are others with some tokens before them; both have the last one first. -/
def Adds (done : List Lexeme) (ts : List Shown) (done' : List Lexeme) : Prop :=
  ∃ ls : List Lexeme, done' = ls.reverse ++ done ∧ ls.map Lexeme.shown = ts

namespace Adds

variable {done done' done'' : List Lexeme} {ts ts' : List Shown}

/-- No token is added. -/
lemma refl : Adds done [] done :=
  ⟨[], rfl, rfl⟩

/-- A token is added. -/
lemma cons {l : Lexeme} : Adds done [l.shown] (l :: done) :=
  ⟨[l], rfl, rfl⟩

/-- Tokens are added one after the other. -/
lemma trans (h : Adds done ts done') (h' : Adds done' ts' done'') :
    Adds done (ts ++ ts') done'' := by
  obtain ⟨ls, rfl, rfl⟩ := h
  obtain ⟨ls', rfl, rfl⟩ := h'
  exact ⟨ls ++ ls', by simp, by simp⟩

end Adds

/-- Whether the last of some lexemes is a break. -/
def startsWithBreak : List Lexeme → Bool
  | ⟨.break, _, _, _⟩ :: _ => true
  | _ => false

/-- Whether running text adds some tokens, of which the last one is no break. -/
def Spells (quoted listed : Bool) (glyphs : List Glyph) (ts : List Shown) : Prop :=
  ∀ done, startsWithText done = false →
    ∃ done', (Lexemes.idle done quoted listed).inlines (inlinesOf [] glyphs) =
      .idle done' quoted listed ∧ Adds done ts done' ∧ startsWithBreak done' = false

/-- Whether blocks add some tokens, of which the last one is no text. -/
def Yields (quoted listed tight : Bool) (blocks : List Block) (ts : List Shown) : Prop :=
  ∀ done, startsWithText done = false →
    ∃ done', (Lexemes.idle done quoted listed).blocks [] tight blocks = .idle done' quoted listed ∧
      Adds done ts done' ∧ startsWithText done' = false

/-- Text after what is no text is a token of its own. -/
lemma Lexemes.text_idle {done quoted listed text span} (h : startsWithText done = false) :
    (idle done quoted listed).text text span =
      idle (⟨.text text, span, quoted, listed⟩ :: done) quoted listed := by
  cases done with
  | nil => rfl
  | cons l done =>
    obtain ⟨token, span', quoted', listed'⟩ := l
    cases token with
    | text text => cases h
    | _ => rfl

/-- A break is added after what is no break. -/
lemma Lexemes.pushBreak_idle {done quoted listed span} (h : startsWithBreak done = false) :
    (idle done quoted listed).pushBreak span =
      idle (⟨.break, span, quoted, listed⟩ :: done) quoted listed := by
  cases done with
  | nil => rfl
  | cons l done =>
    obtain ⟨token, span', quoted', listed'⟩ := l
    cases token with
    | «break» => cases h
    | _ => rfl

/-- Text that may stand in a comment: it is inert, has no blanks at its ends and does not end the
comment. -/
structure Noted (text : List Char) : Prop where
  /-- There is some text. -/
  ne : text ≠ []
  /-- It starts with no blank. -/
  first : ∀ c ∈ text.head?, Text.isBlank c = false
  /-- It ends with no blank. -/
  last : ∀ c ∈ text.getLast?, Text.isBlank c = false
  /-- There is no sign in it. -/
  inert : ∀ c ∈ text, isInert c = true
  /-- There is no closing bracket in it. -/
  closed : '>' ∉ text

/-- A comment is one piece after its opening bracket. -/
lemma Noted.settled {text} (h : Noted text) : Settled (noteText text) :=
  @Settled.append ['!', '-', '-', '-', ' '] _ (List.all_eq_true.1 rfl)
    (.append h.inert (by decide))

/-- Nothing of the text is left out if it is trimmed. -/
lemma Noted.trim {text} (h : Noted text) : Text.trim text = text :=
  Text.trim_of_ends h.ne h.first h.last

/-- A plain character is blank only if it is a space. -/
lemma isBlank_of_isPlainChar {c} (h : Text.isPlainChar c = true) (hc : c ≠ ' ') :
    Text.isBlank c = false := by
  have := @Text.forall_isPlainChar (fun c => c == ' ' || !Text.isBlank c) (by decide)
    (by decide) rfl c h
  simpa [hc] using this

/-- Plain text may stand in a comment. -/
lemma noted_of_plain {text} (h : Text.Plain text) : Noted text := by
  refine ⟨h.ne, ?_, ?_, h.settled.inert, ?_⟩
  · intro c hc
    refine isBlank_of_isPlainChar (h.chars c (List.mem_of_mem_head? hc)) ?_
    rintro rfl
    exact h.first hc
  · intro c hc
    refine isBlank_of_isPlainChar (h.chars c (List.mem_of_getLast? hc)) ?_
    rintro rfl
    exact h.last hc
  · exact fun hmem => absurd (h.chars '>' hmem) (by decide)

/-- A name behind a sign may stand in a comment. -/
lemma noted_of_isName {text} (h : Text.isName text = true) : Noted ('#' :: text) := by
  have hplain := noted_of_plain (Text.plain_of_isName h)
  refine ⟨List.cons_ne_nil _ _, ?_, ?_, ?_, ?_⟩
  · rintro c ⟨⟩
    rfl
  · intro c hc
    obtain ⟨d, ds, rfl⟩ := List.exists_cons_of_ne_nil hplain.ne
    rw [List.getLast?_cons_cons] at hc
    exact hplain.last c hc
  · intro c hc
    obtain rfl | hc := List.mem_cons.1 hc
    · rfl
    · exact hplain.inert c hc
  · intro hmem
    exact hplain.closed ((List.mem_cons.1 hmem).resolve_left (by decide))

/-- The text of a comment, after which blanks may stand, is what it is written with. -/
lemma commentBody_noteText (blanks : List Char) {text} (h : Noted text)
    (hb : ∀ c ∈ blanks, Text.isBlank c = true) :
    commentBody ('<' :: noteText text ++ blanks) = text := by
  have htrim : Text.trim ('<' :: noteText text ++ blanks) = '<' :: noteText text := by
    refine Text.trim_between [] blanks (List.forall_mem_nil _) hb (List.cons_ne_nil _ _) ?_ ?_
    · rintro c ⟨⟩
      rfl
    · intro c hc
      obtain rfl : '>' = c := by simpa [noteText, List.getLast?_cons, List.getLast?_append] using hc
      rfl
  have hsuffix : Text.dropSuffix? ['-', '-', '>'] (' ' :: (text ++ [' ', '-', '-', '>'])) =
      some (' ' :: (text ++ [' '])) := by
    rw [Text.dropSuffix?, Option.map_eq_some_iff]
    refine ⟨(' ' :: (text ++ [' '])).reverse, ?_, List.reverse_reverse _⟩
    rw [Text.dropPrefix?_eq_some_iff, ← List.reverse_append]
    simp
  have hbody := Text.trim_between [' '] [' '] (List.all_eq_true.1 rfl) (List.all_eq_true.1 rfl)
    h.ne h.first h.last
  rw [commentBody, htrim]
  simp only [noteText, Text.dropPrefix?, if_true, Option.getD_some, Option.or_some, hsuffix]
  exact hbody

/-- HTML with a third dash is a comment of the story. -/
lemma isComment_noteText {text rest} : isComment ('<' :: noteText text ++ rest) = true := by
  rw [isComment, noteText]
  simp only [List.cons_append]
  rw [List.dropWhile_cons_of_neg (by decide)]
  rfl

section Spells

variable {quoted listed : Bool} {offset : Nat} {text address : List Char} {after : List Glyph}

/-- Text without signs spells itself. -/
lemma spells_settled (ht : Settled text) (ha : Ended after) :
    Spells quoted listed (glyphsFrom offset text ++ after)
      [(.text text,
        if quoted then some .blockquote else if listed then some .citation else none)] := by
  intro done hdone
  obtain ⟨span, e⟩ := @inlinesOf_settled offset text after ht ha
  refine ⟨⟨.text text, span, quoted, listed⟩ :: done, ?_, .cons, rfl⟩
  rw [e, Lexemes.inlines, Lexemes.inlines, Lexemes.inline, Lexemes.text_idle hdone]

/-- A link spells a link. -/
lemma spells_link (ht : Settled text) (h : ∀ c ∈ address, isAddressChar c = true)
    (ha : Ended after) :
    Spells quoted listed (glyphsFrom offset ('[' :: Inlines.labelText text address) ++ after)
      [(.link text address, none)] := by
  intro done _
  obtain ⟨span, span', e⟩ := @inlinesOf_link offset text address after ht h ha
  refine ⟨⟨.link text address, ⟨span'.start, span'.stop⟩, quoted, listed⟩ :: done, ?_, .cons, rfl⟩
  rw [e]
  simp only [Lexemes.inlines, Lexemes.inline]
  rfl

/-- An image spells an image. -/
lemma spells_image (ht : Settled text) (h : ∀ c ∈ address, isAddressChar c = true)
    (ha : Ended after) :
    Spells quoted listed (glyphsFrom offset ('!' :: '[' :: Inlines.labelText text address) ++ after)
      [(.image text address, none)] := by
  intro done _
  obtain ⟨span, span', e⟩ := @inlinesOf_image offset text address after ht h ha
  refine ⟨⟨.image text address, ⟨span'.start, span'.stop⟩, quoted, listed⟩ :: done, ?_, .cons, rfl⟩
  rw [e]
  simp only [Lexemes.inlines, Lexemes.inline]
  rfl

/-- An image with a comment after it spells an image and a comment. -/
lemma spells_image_note {note} (ht : Settled text) (h : ∀ c ∈ address, isAddressChar c = true)
    (hn : Noted note) (ha : Ended after) :
    Spells quoted listed
      (glyphsFrom offset ('!' :: '[' :: Inlines.labelText text address ++ '<' :: noteText note) ++
        after)
      [(.image text address, none), (.comment note, none)] := by
  intro done _
  obtain ⟨span, span', span'', e⟩ :=
    @inlinesOf_image_note offset text address after note ht h hn.settled hn.closed ha
  let image : Lexeme := ⟨.image text address, ⟨span'.start, span'.stop⟩, quoted, listed⟩
  refine ⟨⟨.comment note, span'', quoted, listed⟩ :: image :: done, ?_,
    (@Adds.cons done image).trans .cons, rfl⟩
  have hbody := commentBody_noteText [] hn (List.forall_mem_nil _)
  have hcomment := @isComment_noteText note []
  rw [List.append_nil] at hbody hcomment
  rw [e]
  simp only [Lexemes.inlines, Lexemes.inline]
  have himage : (((Lexemes.idle done quoted listed).enter true address span'.start).text text
      span).leave true span'.stop = .idle (image :: done) quoted listed := rfl
  rw [himage, Lexemes.html]
  simp only [Lexemes.idle, hcomment, hbody, if_true]
  rfl

/-- Code spells code. -/
lemma spells_code (h : Unticked text) (hcode : codeText text = text)
    (hc : ∃ c ds, text = c :: ds ∧ c ≠ '\x60') (ha : Ended after) :
    Spells quoted listed (glyphsFrom offset ('\x60' :: (text ++ ['\x60'])) ++ after)
      [(.code text, none)] := by
  intro done _
  obtain ⟨span, e⟩ := @inlinesOf_code offset text after h hcode hc ha
  refine ⟨⟨.code text, span, quoted, listed⟩ :: done, ?_, .cons, rfl⟩
  rw [e]
  simp only [Lexemes.inlines, Lexemes.inline]
  rfl

end Spells

/-- Blocks are added one after the other. -/
lemma Lexemes.blocks_append {s : Lexemes} {tight bs bs'} :
    s.blocks [] tight (bs ++ bs') = (s.blocks [] tight bs).blocks [] tight bs' := by
  induction bs generalizing s with
  | nil => rw [List.nil_append, blocks]
  | cons b bs ih => rw [List.cons_append, blocks, blocks, ih]

namespace Yields

variable {quoted listed tight : Bool} {bs bs' : List Block} {ts ts' : List Shown}
  {span span' : Span}

/-- No block yields no token. -/
lemma nil : Yields quoted listed tight [] [] :=
  fun done hdone => ⟨done, by rw [Lexemes.blocks], .refl, hdone⟩

/-- Blocks yield the tokens of their parts. -/
lemma append (h : Yields quoted listed tight bs ts) (h' : Yields quoted listed tight bs' ts') :
    Yields quoted listed tight (bs ++ bs') (ts ++ ts') := by
  intro done hdone
  obtain ⟨done', e, hadds, hdone'⟩ := h done hdone
  obtain ⟨done'', e', hadds', hdone''⟩ := h' done' hdone'
  exact ⟨done'', by rw [Lexemes.blocks_append, e, e'], hadds.trans hadds', hdone''⟩

/-- A block that is added with one break after its tokens yields them and the break. -/
lemma of_block {b : Block} (span : Span)
    (h : ∀ done, startsWithText done = false →
      ∃ done', (Lexemes.idle done quoted listed).block [] tight b =
        (Lexemes.idle done' quoted listed).pushBreak span ∧ Adds done ts done' ∧
          startsWithBreak done' = false) :
    Yields quoted listed tight [b] (ts ++ [(.break, none)]) := by
  intro done hdone
  obtain ⟨done', e, hadds, hdone'⟩ := h done hdone
  refine ⟨⟨.break, span, quoted, listed⟩ :: done', ?_, hadds.trans .cons, rfl⟩
  rw [Lexemes.blocks, Lexemes.blocks, e, Lexemes.pushBreak_idle hdone']

/-- A paragraph yields what its text spells, and a break. -/
lemma paragraph {glyphs} (h : Spells quoted listed glyphs ts) :
    Yields quoted listed false [.paragraph glyphs span] (ts ++ [(.break, none)]) := by
  refine of_block span fun done hdone => ?_
  obtain ⟨done', e, hadds, hdone'⟩ := h done hdone
  exact ⟨done', by rw [Lexemes.block, e, if_neg Bool.false_ne_true], hadds, hdone'⟩

/-- A paragraph in a quote yields what its text spells there, and a break. -/
lemma quote {glyphs} (h : Spells true listed glyphs ts) :
    Yields false listed tight [.quote [.paragraph glyphs span] span'] (ts ++ [(.break, none)]) := by
  intro done hdone
  obtain ⟨done', e, hadds, hdone'⟩ := h done hdone
  refine ⟨⟨.break, span, true, listed⟩ :: done', ?_, hadds.trans .cons, rfl⟩
  rw [Lexemes.idle] at e
  rw [Lexemes.blocks, Lexemes.blocks, Lexemes.block, Lexemes.blocks, Lexemes.blocks, Lexemes.block,
    if_neg Bool.false_ne_true, Lexemes.idle]
  simp only [e]
  rw [Lexemes.pushBreak_idle hdone']
  rfl

/-- A paragraph in an item, however tight its list is, yields what its text spells there, and a
break. -/
lemma item {glyphs} (h : Spells quoted true glyphs ts) :
    Yields quoted false tight [.item [.paragraph glyphs span] span'] (ts ++ [(.break, none)]) := by
  intro done hdone
  obtain ⟨done', e, hadds, hdone'⟩ := h done hdone
  rw [Lexemes.idle] at e
  -- the break has the place of the item in a tight list, and that of the paragraph in a loose one
  cases tight with
  | true =>
    refine ⟨⟨.break, span', quoted, true⟩ :: done', ?_, hadds.trans .cons, rfl⟩
    rw [Lexemes.blocks, Lexemes.blocks, Lexemes.block, Lexemes.blocks, Lexemes.blocks,
      Lexemes.block, if_pos rfl, Lexemes.idle]
    simp only [e]
    rw [Lexemes.pushBreak_idle hdone']
    rfl
  | false =>
    refine ⟨⟨.break, span, quoted, true⟩ :: done', ?_, hadds.trans .cons, rfl⟩
    rw [Lexemes.blocks, Lexemes.blocks, Lexemes.block, Lexemes.blocks, Lexemes.blocks,
      Lexemes.block, if_neg Bool.false_ne_true, Lexemes.idle]
    simp only [e]
    rw [Lexemes.pushBreak_idle hdone']
    rfl

/-- A list without items yields nothing. -/
lemma list_nil (h : Yields quoted listed false bs ts) :
    Yields quoted listed false (bs ++ [.list tight []]) ts := by
  intro done hdone
  obtain ⟨done', e, hadds, hdone'⟩ := h done hdone
  refine ⟨done', ?_, hadds, hdone'⟩
  rw [Lexemes.blocks_append, e, Lexemes.blocks, Lexemes.blocks, Lexemes.block, Lexemes.blocks]

/-- An item at the end of a list yields its tokens after those of the list. -/
lemma list_concat {items item} (h : Yields quoted listed false (bs ++ [.list tight items]) ts)
    (hitem : Yields quoted listed tight [item] ts') :
    Yields quoted listed false (bs ++ [.list tight (items ++ [item])]) (ts ++ ts') := by
  intro done hdone
  obtain ⟨done', e, hadds, hdone'⟩ := h done hdone
  obtain ⟨done'', e', hadds', hdone''⟩ := hitem done' hdone'
  refine ⟨done'', ?_, hadds.trans hadds', hdone''⟩
  rw [Lexemes.blocks_append, Lexemes.blocks, Lexemes.blocks, Lexemes.block] at e ⊢
  rw [Lexemes.blocks_append, e, e']

/-- A block of HTML that is a comment yields the comment. -/
lemma comment {text} (h : Noted text) :
    Yields quoted listed tight [.html ('<' :: noteText text ++ ['\n']) span]
      [(.comment text, none)] := by
  intro done hdone
  refine ⟨⟨.comment text, span, quoted, listed⟩ :: done, ?_, .cons, rfl⟩
  rw [Lexemes.blocks, Lexemes.blocks, Lexemes.block, Lexemes.html, Lexemes.idle]
  simp only [isComment_noteText, commentBody_noteText ['\n'] h (List.all_eq_true.1 rfl), if_true]
  rfl

/-- A block of HTML that is no comment yields nothing. -/
lemma html {content} (h : isComment content = false) :
    Yields quoted listed tight [.html content span] [] := by
  intro done hdone
  refine ⟨done, ?_, .refl, hdone⟩
  rw [Lexemes.blocks, Lexemes.blocks, Lexemes.block, Lexemes.html, Lexemes.idle]
  simp only [h, Bool.false_eq_true, if_false]

/-- A block of code that is no flowchart yields the code, and a break. -/
lemma fence {info content} (h : Text.trim info ≠ flowchartInfo.toList) :
    Yields quoted listed tight [.fence info content span]
      [(.fence (Text.trim info) content, none), (.break, none)] := by
  refine @of_block _ _ _ [(.fence (Text.trim info) content, none)] _ span fun done _ => ?_
  refine ⟨⟨.fence (Text.trim info) content, span, quoted, listed⟩ :: done, ?_, .cons, rfl⟩
  rw [Lexemes.block]
  simp only [if_neg h]
  rfl

/-- A heading of plain text yields the text. -/
lemma heading {level offset text} (h : Text.Plain text) :
    Yields quoted listed tight [.heading level (glyphsFrom offset text) span]
      [(.heading level text none, none)] := by
  intro done hdone
  obtain ⟨span', e⟩ := @inlinesOf_settled offset text [] h.settled (.inl rfl)
  have htrim := (noted_of_plain h).trim
  rw [List.append_nil] at e
  refine ⟨⟨.heading level text none, span, quoted, listed⟩ :: done, ?_, .cons, rfl⟩
  rw [Lexemes.blocks, Lexemes.blocks, Lexemes.block, e]
  simp only [Lexemes.inlines, Lexemes.inline, Lexemes.text, Lexemes.idle, List.nil_append, htrim]
  rfl

/-- A heading of plain text with an id in a comment yields the text and the id. -/
lemma heading_note {level offset text id} (h : Text.Plain text) (hid : Text.isName id = true) :
    Yields quoted listed tight
      [.heading level (glyphsFrom offset (text ++ ' ' :: '<' :: noteText ('#' :: id))) span]
        [(.heading level text (some id), none)] := by
  intro done hdone
  have hid' := noted_of_isName hid
  obtain ⟨span', span'', e⟩ :=
    @inlinesOf_settled_note offset text [] ('#' :: id) h.settled hid'.settled hid'.closed (.inl rfl)
  have hnoted := noted_of_plain h
  have htrim : Text.trim (text ++ [' ']) = text :=
    Text.trim_between [] [' '] (List.forall_mem_nil _) (List.all_eq_true.1 rfl) hnoted.ne
      hnoted.first hnoted.last
  have htrim' := (noted_of_plain (Text.plain_of_isName hid)).trim
  have hbody := commentBody_noteText [] hid' (List.forall_mem_nil _)
  have hcomment := @isComment_noteText ('#' :: id) []
  rw [List.append_nil] at e hbody hcomment
  refine ⟨⟨.heading level text (some id), span, quoted, listed⟩ :: done, ?_, .cons, rfl⟩
  rw [Lexemes.blocks, Lexemes.blocks, Lexemes.block, e]
  simp only [Lexemes.inlines, Lexemes.inline, Lexemes.text, Lexemes.html, Lexemes.idle,
    List.nil_append, hcomment, hbody, if_true, Text.dropPrefix?, htrim, htrim']
  rfl

end Yields

end Gamebook.Markup
