import Gamebook.Proofs.TokenText

/-!
# Outlines of written lines

What single lines do to the outline of what is read before them: lines of running text, items,
quotes, comments, headings, fences, the content of fences, and blank lines. Main definitions:
`Between` and `Ready`, the outlines in which the lines of stories are read, and `Running`.
-/

namespace Gamebook.Markup

namespace Cursor

variable {offset column n : Nat} {c : Char} {cs : List Char}

/-- No column is skipped before a character that is no white space. -/
lemma skip_cons (h₁ : c ≠ ' ') (h₂ : c ≠ '\t') :
    (⟨offset, c :: cs, column, 0⟩ : Cursor).skip (n + 1) =
      (n + 1, ⟨offset, c :: cs, column, 0⟩) := by
  simp [skip, skipFrom, h₁, h₂]

/-- No column is skipped before a character that is no white space. -/
lemma skipUpTo_cons (h₁ : c ≠ ' ') (h₂ : c ≠ '\t') :
    (⟨offset, c :: cs, column, 0⟩ : Cursor).skipUpTo (n + 1) =
      (0, ⟨offset, c :: cs, column, 0⟩) := by
  simp only [skipUpTo, skip_cons h₁ h₂, Nat.sub_self]

end Cursor

/-- Whether running text may start with a character. -/
def isOpening (c : Char) : Bool :=
  c.isLower || c ∈ ['!', '[', '\x60']

/-- What holds of every character that starts running text holds of a given one. -/
lemma forall_isOpening {p : Char → Bool} (hl : ∀ n < 26, p (Char.ofNat (97 + n)) = true)
    (h₁ : p '!' = true) (h₂ : p '[' = true) (h₃ : p '\x60' = true) {c : Char}
    (h : isOpening c = true) : p c = true := by
  simp only [isOpening, Bool.or_eq_true, List.mem_cons, List.not_mem_nil, or_false,
    decide_eq_true_eq] at h
  obtain h | rfl | rfl | rfl := h
  · exact Text.forall_isLower hl h
  · exact h₁
  · exact h₂
  · exact h₃

/-- Whether no block but a paragraph starts with a character, fences and definitions aside. -/
def isTextStart (c : Char) : Bool :=
  !(isSpace c || isBullet c || c.isDigit || c ∈ ['_', '#', '>', '<'])

/-- Running text starts with a character of text. -/
lemma isTextStart_of_isOpening {c} (h : isOpening c = true) : isTextStart c = true :=
  forall_isOpening (by decide) rfl rfl rfl h

/-- Text of one line that starts nothing but a paragraph. -/
structure Running (cs : List Char) : Prop where
  /-- There is no end of a line in it. -/
  oneLine : ∀ c ∈ cs, c ≠ '\n' ∧ c ≠ '\r'
  /-- It starts with a character that no block starts with. -/
  start : ∃ c ds, cs = c :: ds ∧ isOpening c = true
  /-- It does not start with a fence. -/
  noFence : openingFence? cs = none
  /-- It does not start with a definition. -/
  noDefinition : ∀ rest, definition? (cs ++ '\n' :: rest) = none

/-- A text that starts with no bracket starts with no definition. -/
lemma definition?_of_ne {c cs} (h : c ≠ '[') : definition? (c :: cs) = none := by
  have hlabel : label? (c :: cs) = none := by
    unfold label?
    split
    · next e => exact (h (List.cons.inj e).1).elim
    · rfl
  rw [definition?, hlabel]
  rfl

section Starts

variable {offset column : Nat} {c : Char} {cs : List Char} (h : isTextStart c = true)
include h

/-- Text is not blank. -/
lemma isBlank_textStart : Cursor.isBlank ⟨offset, c :: cs, column, 0⟩ = false := by
  have hc : isSpace c = false := by
    simp only [isTextStart, Bool.not_eq_true', Bool.or_eq_false_iff] at h
    exact h.1.1.1
  simp [Cursor.isBlank, isBlankText, hc]

/-- No column is skipped before text. -/
lemma skipUpTo_textStart {n} :
    (⟨offset, c :: cs, column, 0⟩ : Cursor).skipUpTo (n + 1) = (0, ⟨offset, c :: cs, column, 0⟩) :=
  Cursor.skipUpTo_cons (Text.ne_of_kind h rfl) (Text.ne_of_kind h rfl)

/-- Text starts with no marker of an item. -/
lemma listMarker?_textStart {indent} :
    listMarker? indent ⟨offset, c :: cs, column, 0⟩ = none := by
  simp only [isTextStart, Bool.not_eq_true', Bool.or_eq_false_iff] at h
  simp [listMarker?, h.1.1.2, listNumber?, h.1.2]

/-- Text starts with no marker of a quote. -/
lemma quoteMarker?_textStart : (⟨offset, c :: cs, column, 0⟩ : Cursor).quoteMarker? = none := by
  unfold Cursor.quoteMarker?
  split
  · next e => exact (Text.ne_of_kind h rfl (List.cons.inj e).1).elim
  · rfl

/-- Text starts with no HTML. -/
lemma htmlStart?_textStart : htmlStart? (c :: cs) = none := by
  have hne : c ≠ '<' := Text.ne_of_kind h rfl
  have hfirm : firmHtmlStart? (c :: cs) = none := by
    unfold firmHtmlStart?
    split
    · next e => exact (hne (List.cons.inj e).1).elim
    · rfl
  unfold htmlStart?
  rw [hfirm]
  simp only
  split
  · next e => exact (hne (List.cons.inj e).1).elim
  · rfl

/-- Text is no rule. -/
lemma isRule_textStart : isRule (c :: cs) = false := by
  have hsign : (c == '*' || c == '-' || c == '_') = false := by
    simp [Text.ne_of_kind (d := '*') h rfl, Text.ne_of_kind (d := '-') h rfl,
      Text.ne_of_kind (d := '_') h rfl]
  rw [isRule, hsign]
  rfl

/-- Text is no heading. -/
lemma headingLevel?_textStart : headingLevel? (c :: cs) = none := by
  have hne : (c == '#') = false := beq_eq_false_iff_ne.2 (Text.ne_of_kind h rfl)
  simp [headingLevel?, hne]

end Starts

/-- An outline without an open leaf, after which a block may start, that holds some tokens. -/
inductive Between (ts : List Shown) : Outline → Prop where
  /-- Nothing is open. -/
  | top {blocks afterBlank} (h : Yields false false false blocks.reverse ts) :
      Between ts ⟨[], blocks, none, afterBlank, none, []⟩
  /-- A list with an item is open. -/
  | listed {start children tight items blocks afterBlank}
      (h : ∀ tight span, Yields false false false
        (blocks.reverse ++ [.list tight (items.reverse ++ [.item children.reverse span])]) ts) :
      Between ts
        ⟨[⟨.item start 2, children⟩, ⟨.list '-' tight, items⟩], blocks, none, afterBlank, none, []⟩

/-- An outline in which a line starts a block, that holds some tokens. -/
inductive Ready (ts : List Shown) : Outline → Prop where
  /-- Nothing is open. -/
  | top {blocks afterBlank} (h : Yields false false false blocks.reverse ts) :
      Ready ts ⟨[], blocks, none, afterBlank, none, []⟩
  /-- A list is open. -/
  | list {tight items blocks afterBlank}
      (h : ∀ tight, Yields false false false (blocks.reverse ++ [.list tight items.reverse]) ts) :
      Ready ts ⟨[⟨.list '-' tight, items⟩], blocks, none, afterBlank, none, []⟩

namespace Ready

variable {ts : List Shown} {o : Outline}

/-- A block that is no item ends the list. -/
lemma finishList (h : Ready ts o) (stop : Nat) :
    ∃ blocks, Yields false false false blocks.reverse ts ∧
      o.finishList stop = ⟨[], blocks, none, false, none, []⟩ := by
  cases h with
  | @top blocks afterBlank h =>
    refine ⟨blocks, h, ?_⟩
    cases afterBlank <;> rfl
  | @list tight items blocks afterBlank h =>
    refine ⟨.list tight items.reverse :: blocks, ?_, ?_⟩
    · rw [List.reverse_cons]
      exact h tight
    · cases tight <;> cases afterBlank <;> rfl

/-- An item goes on with the list, or starts one. -/
lemma continueList (h : Ready ts o) (start : Nat) :
    ∃ tight items blocks,
      (∀ tight, Yields false false false (blocks.reverse ++ [.list tight items.reverse]) ts) ∧
        o.continueList start '-' = ⟨[⟨.list '-' tight, items⟩], blocks, none, false, none, []⟩ := by
  cases h with
  | @top blocks afterBlank h =>
    refine ⟨true, [], blocks, fun tight => h.list_nil, ?_⟩
    cases afterBlank <;> rfl
  | @list tight items blocks afterBlank h => exact ⟨_, items, blocks, h, rfl⟩

end Ready

/-- The line with some text. -/
abbrev textLine (start : Nat) (text : List Char) (beforeBlank : Bool) : Line :=
  ⟨start, text, ['\n'], beforeBlank⟩

/-- A line with text that no container goes on with starts a block. -/
lemma Between.read {ts o} (h : Between ts o) (start : Nat) (c : Char) (cs : List Char)
    (beforeBlank : Bool) (h₁ : c ≠ ' ') (h₂ : c ≠ '\t') :
    ∃ o', Ready ts o' ∧ o.read (textLine start (c :: cs) beforeBlank) =
      o'.startBlocks (textLine start (c :: cs) beforeBlank) (cs.length + 2)
        ⟨start, c :: cs, 0, 0⟩ := by
  cases h with
  | @top blocks afterBlank h => exact ⟨_, .top h, rfl⟩
  | @listed itemStart children tight items blocks afterBlank h =>
    refine ⟨⟨[⟨.list '-' tight, .item children.reverse ⟨itemStart, start⟩ :: items⟩], blocks, none,
      afterBlank, none, []⟩, .list fun tight => ?_, ?_⟩
    · rw [List.reverse_cons]
      exact h tight _
    · have hcontinued : continued ⟨start, c :: cs, 0, 0⟩ [.list '-' tight, .item itemStart 2] =
          (1, ⟨start, c :: cs, 0, 0⟩) := by
        simp [continued, Container.continue?, Cursor.skip_cons h₁ h₂]
      rw [Outline.read]
      simp only [List.reverse_cons, List.reverse_nil, List.nil_append, List.cons_append,
        List.map_cons, List.map_nil, Cursor.ofLine, hcontinued]
      rfl

section Leaves

variable {blocks : List Block} {line : Line} {offset column fuel : Nat} {frames : List Frame}
  {o : Outline} (hfinish : o.finishList line.start = ⟨frames, blocks, none, false, none, []⟩)
include hfinish

/-- Text starts a paragraph. -/
lemma startBlocks_textStart {c cs} (hc : isTextStart c = true)
    (hfence : openingFence? (c :: cs) = none) :
    o.startBlocks line (fuel + 1) ⟨offset, c :: cs, column, 0⟩ =
      ⟨frames, blocks, some (.paragraph offset (glyphsOf line ⟨offset, c :: cs, column, 0⟩)), false,
        none, []⟩ := by
  have hskip := @skipUpTo_textStart offset column c cs hc 3
  rw [Outline.startBlocks]
  simp only [hskip, isBlank_textStart hc, listMarker?_textStart hc, quoteMarker?_textStart hc,
    Bool.false_eq_true, if_false]
  rw [Outline.startLeaf, hfinish]
  simp only [hskip, htmlStart?_textStart hc, isRule_textStart hc, headingLevel?_textStart hc, hfence,
    Bool.false_eq_true, if_false]
  rfl

/-- Running text starts a paragraph. -/
lemma startBlocks_running {cs} (hcs : Running cs) :
    o.startBlocks line (fuel + 1) ⟨offset, cs, column, 0⟩ =
      ⟨frames, blocks, some (.paragraph offset (glyphsOf line ⟨offset, cs, column, 0⟩)), false,
        none, []⟩ := by
  obtain ⟨c, ds, rfl, hc⟩ := hcs.start
  exact startBlocks_textStart hfinish (isTextStart_of_isOpening hc) hcs.noFence

end Leaves

section Top

variable {blocks : List Block} {line : Line} {offset column fuel : Nat} {o : Outline}
  {text : List Char} (hfinish : o.finishList line.start = ⟨[], blocks, none, false, none, []⟩)
include hfinish

/-- A comment of HTML that ends in its line is a block. -/
lemma startBlocks_html (hending : line.ending = ['\n'])
    (h : Text.occurs ['-', '-', '>'] ('<' :: '!' :: '-' :: '-' :: text) = true) :
    ∃ span, o.startBlocks line (fuel + 1) ⟨offset, '<' :: '!' :: '-' :: '-' :: text, column, 0⟩ =
      ⟨[], .html ('<' :: '!' :: '-' :: '-' :: text ++ ['\n']) span :: blocks, none, false, none,
        []⟩ := by
  have hskip := @Cursor.skipUpTo_cons offset column 3 '<' ('!' :: '-' :: '-' :: text) (by decide)
    (by decide)
  have hhtml : htmlStart? ('<' :: '!' :: '-' :: '-' :: text) = some (.through ['-', '-', '>']) :=
    rfl
  have hcontent : contentOf line ⟨offset, '<' :: '!' :: '-' :: '-' :: text, column, 0⟩ =
      '<' :: '!' :: '-' :: '-' :: text ++ ['\n'] := by
    rw [contentOf, endingOf, hending]
    rfl
  refine ⟨⟨offset, line.stop⟩, ?_⟩
  rw [Outline.startBlocks]
  simp only [hskip]
  rw [show listMarker? 0 ⟨offset, '<' :: '!' :: '-' :: '-' :: text, column, 0⟩ = none from rfl,
    show (⟨offset, '<' :: '!' :: '-' :: '-' :: text, column, 0⟩ : Cursor).quoteMarker? =
      none from rfl]
  simp only
  rw [Outline.startLeaf, hfinish]
  simp only [hskip, hhtml, h, hcontent, if_true]
  rfl

/-- A line that starts with signs of headings is a heading. -/
lemma startBlocks_heading {level} (hlevel : level < 6) (ht : ∀ c ∈ text.head?, isSpace c = false)
    (htrim : trimHeading text = text) :
    ∃ offset' span, o.startBlocks line (fuel + 1)
      ⟨offset, '#' :: (List.replicate level '#' ++ ' ' :: text), column, 0⟩ =
        ⟨[], .heading (level + 1) (glyphsFrom offset' text) span :: blocks, none, false, none,
          []⟩ := by
  have hskip := @Cursor.skipUpTo_cons offset column 3 '#' (List.replicate level '#' ++ ' ' :: text)
    (by decide) (by decide)
  have htake : ('#' :: (List.replicate level '#' ++ ' ' :: text)).takeWhile (· == '#') =
      List.replicate (level + 1) '#' := by
    rw [← List.cons_append, ← List.replicate_succ, List.takeWhile_append_of_pos,
      List.takeWhile_cons_of_neg (by decide), List.append_nil]
    intro c hc
    rw [List.eq_of_mem_replicate hc]
    rfl
  have hdrop : ('#' :: (List.replicate level '#' ++ ' ' :: text)).drop (level + 1) =
      ' ' :: text := by
    rw [List.drop_succ_cons]
    exact List.drop_left' List.length_replicate
  have hlevel' : headingLevel? ('#' :: (List.replicate level '#' ++ ' ' :: text)) =
      some (level + 1) := by
    rw [headingLevel?, htake, List.length_replicate]
    simp only [hdrop]
    rw [if_pos ⟨Nat.succ_pos level, hlevel⟩]
    rfl
  have htext : (' ' :: text).dropWhile isSpace = text := by
    rw [List.dropWhile_cons_of_pos rfl]
    cases text with
    | nil => rfl
    | cons c cs => rw [List.dropWhile_cons_of_neg (ne_true_of_eq_false (ht c rfl))]
  refine ⟨line.textStop - Text.byteSize text, ⟨offset, line.stop⟩, ?_⟩
  rw [Outline.startBlocks]
  simp only [hskip]
  -- the sign opens no item and no quote, so the rest of the line is a leaf
  have hmarker : listMarker? 0
      ⟨offset, '#' :: (List.replicate level '#' ++ ' ' :: text), column, 0⟩ = none := rfl
  have hquote : Cursor.quoteMarker?
      ⟨offset, '#' :: (List.replicate level '#' ++ ' ' :: text), column, 0⟩ = none := rfl
  rw [hmarker, hquote]
  simp only
  rw [Outline.startLeaf, hfinish]
  simp only [hskip]
  rw [show htmlStart? ('#' :: (List.replicate level '#' ++ ' ' :: text)) = none from rfl,
    show isRule ('#' :: (List.replicate level '#' ++ ' ' :: text)) = false from rfl, hlevel']
  simp only [hdrop, htext, htrim, Bool.false_eq_true, if_false]
  rfl

/-- A line of three backticks and a name starts a block of code. -/
lemma startBlocks_fence {name}
    (hname : openingFence? ('\x60' :: '\x60' :: '\x60' :: name) = some ('\x60', 3))
    (hinfo : unescape ((name.dropWhile isSpace).reverse.dropWhile isSpace).reverse = name) :
    o.startBlocks line (fuel + 1) ⟨offset, '\x60' :: '\x60' :: '\x60' :: name, column, 0⟩ =
      ⟨[], blocks, some (.fence offset 0 '\x60' 3 name []), false, none, []⟩ := by
  have hskip := @Cursor.skipUpTo_cons offset column 3 '\x60' ('\x60' :: '\x60' :: name) (by decide)
    (by decide)
  rw [Outline.startBlocks]
  simp only [hskip]
  rw [show listMarker? 0 ⟨offset, '\x60' :: '\x60' :: '\x60' :: name, column, 0⟩ = none from rfl,
    show (⟨offset, '\x60' :: '\x60' :: '\x60' :: name, column, 0⟩ : Cursor).quoteMarker? =
      none from rfl]
  simp only
  rw [Outline.startLeaf, hfinish]
  simp only [hskip]
  rw [show htmlStart? ('\x60' :: '\x60' :: '\x60' :: name) = none from rfl,
    show isRule ('\x60' :: '\x60' :: '\x60' :: name) = false from rfl,
    show headingLevel? ('\x60' :: '\x60' :: '\x60' :: name) = none from rfl, hname]
  simp only [List.drop_succ_cons, List.drop_zero, hinfo]
  rfl

end Top

/-- A hyphen and a space before running text are the marker of an item. -/
lemma listMarker?_hyphen {offset cs} (hcs : Running cs) :
    listMarker? 0 ⟨offset, '-' :: ' ' :: cs, 0, 0⟩ =
      some (⟨'-', 0, 2⟩, ⟨offset + 2, cs, 2, 0⟩) := by
  obtain ⟨c, ds, rfl, hc⟩ := hcs.start
  have hrule : isRule ('-' :: ' ' :: c :: ds) = false := by
    simp [isRule, Text.ne_of_kind (d := '-') hc rfl, Text.ne_of_kind (d := ' ') hc rfl,
      Text.ne_of_kind (d := '\t') hc rfl]
  have hskip := @skipUpTo_textStart (offset + 2) 2 c ds (isTextStart_of_isOpening hc) 3
  have hfinish : finishListMarker ⟨'-', 0, 2⟩ ⟨offset + 1, ' ' :: c :: ds, 1, 0⟩ =
      some (⟨'-', 0, 2⟩, ⟨offset + 2, c :: ds, 2, 0⟩) := by
    rw [finishListMarker, show Cursor.skip 1 ⟨offset + 1, ' ' :: c :: ds, 1, 0⟩ =
      (0, ⟨offset + 2, c :: ds, 2, 0⟩) from rfl]
    simp only [hskip, isBlank_textStart (isTextStart_of_isOpening hc)]
    rfl
  rw [listMarker?]
  simp only [hrule]
  exact hfinish

/-- A sign before running text starts an item. -/
lemma startBlocks_item {o : Outline} {line : Line} {fuel offset cs tight items blocks}
    (hcs : Running cs) (hcontinue : o.continueList offset '-' =
      ⟨[⟨.list '-' tight, items⟩], blocks, none, false, none, []⟩) :
    o.startBlocks line (fuel + 2) ⟨offset, '-' :: ' ' :: cs, 0, 0⟩ =
      ⟨[⟨.item offset 2, []⟩, ⟨.list '-' tight, items⟩], blocks,
        some (.paragraph (offset + 2) (glyphsOf line ⟨offset + 2, cs, 2, 0⟩)),
        false, none, []⟩ := by
  have hskip := @Cursor.skipUpTo_cons offset 0 3 '-' (' ' :: cs) (by decide) (by decide)
  have hblank : Cursor.isBlank ⟨offset + 2, cs, 2, 0⟩ = false := by
    obtain ⟨c, ds, rfl, hc⟩ := hcs.start
    exact isBlank_textStart (isTextStart_of_isOpening hc)
  rw [Outline.startBlocks]
  simp only [hskip, listMarker?_hyphen hcs, Nat.sub_zero, hcontinue, hblank]
  exact startBlocks_running rfl hcs

/-- A sign before running text starts a quote. -/
lemma startBlocks_quote {o : Outline} {line : Line} {fuel offset cs blocks} (hcs : Running cs)
    (hfinish : o.finishList line.start = ⟨[], blocks, none, false, none, []⟩) :
    o.startBlocks line (fuel + 2) ⟨offset, '>' :: ' ' :: cs, 0, 0⟩ =
      ⟨[⟨.quote offset, []⟩], blocks,
        some (.paragraph (offset + 2) (glyphsOf line ⟨offset + 2, cs, 2, 0⟩)),
        false, none, []⟩ := by
  have hskip := @Cursor.skipUpTo_cons offset 0 3 '>' (' ' :: cs) (by decide) (by decide)
  have hquote : Cursor.quoteMarker? ⟨offset, '>' :: ' ' :: cs, 0, 0⟩ =
      some ⟨offset + 2, cs, 2, 0⟩ := by
    obtain ⟨c, ds, rfl, -⟩ := hcs.start
    rfl
  rw [Outline.startBlocks]
  simp only [hskip]
  rw [show listMarker? 0 ⟨offset, '>' :: ' ' :: cs, 0, 0⟩ = none from rfl, hquote]
  simp only [hfinish]
  exact startBlocks_running rfl hcs

/-- Glyphs of text that starts with no definition. -/
structure Undefined (glyphs : List Glyph) : Prop where
  /-- There is some text. -/
  ne : glyphs ≠ []
  /-- It starts with no definition, also if more lines come after it. -/
  noDefinition : ∀ rest, definition? (charsOf glyphs ++ rest) = none

namespace Undefined

variable {glyphs : List Glyph} (h : Undefined glyphs)
include h

/-- No definition is taken from the text. -/
lemma takeDefinitions {fuel} : takeDefinitions fuel glyphs = ([], glyphs) := by
  have hnone := h.noDefinition []
  rw [List.append_nil] at hnone
  cases fuel with
  | zero => rfl
  | succ fuel => rw [Markup.takeDefinitions, hnone]

/-- The text has more than definitions. -/
lemma definitionCount? : definitionCount? glyphs = none := by
  rw [Markup.definitionCount?, h.takeDefinitions]
  cases glyphs with
  | nil => exact (h.ne rfl).elim
  | cons glyph glyphs => rfl

/-- The text does not start with a definition after another line is joined to it. -/
lemma joinLine {dropped more} : Undefined (joinLine glyphs dropped more) := by
  obtain ⟨front, last, rfl⟩ := (List.eq_nil_or_concat glyphs).resolve_left h.ne
  have e : Markup.joinLine (front ++ [last]) dropped more =
      front ++ { last with raw := last.raw ++ dropped } :: more := by
    rw [Markup.joinLine, List.getLast?_concat, List.dropLast_concat]
  have hchars : charsOf (front ++ { last with raw := last.raw ++ dropped } :: more) =
      charsOf (front ++ [last]) ++ charsOf more := by
    simp [charsOf]
  rw [List.concat_eq_append, e]
  refine ⟨by simp, fun rest => ?_⟩
  rw [hchars, List.append_assoc, ← List.concat_eq_append]
  exact h.noDefinition _

/-- The text is closed as a paragraph. -/
lemma closeLeaf {frames blocks start afterBlank emptyItem stop} :
    Outline.closeLeaf stop
      ⟨frames, blocks, some (.paragraph start glyphs), afterBlank, emptyItem, []⟩ =
        Outline.add (.paragraph glyphs ⟨start, stop⟩)
          ⟨frames, blocks, none, afterBlank, emptyItem, []⟩ := by
  rw [Outline.closeLeaf]
  simp only [h.takeDefinitions]
  cases glyphs with
  | nil => exact (h.ne rfl).elim
  | cons glyph glyphs => rfl

/-- A line that starts a block, or is blank, ends the text. -/
lemma paragraphLine {line : Line} {start count} {c : Cursor} {o : Outline}
    (hc : (c.skipUpTo 4).1 ≠ 4 ∧ underlineLevel? (c.skipUpTo 4).2.rest = none)
    (hinterrupts : interrupts line (count == o.frames.length) (c.skipUpTo 4).2 = true) :
    o.paragraphLine line start glyphs count c = o.startLine line count c := by
  let joined := Markup.joinLine glyphs (line.text.take (line.text.length - c.rest.length))
    (glyphsOf line c)
  have hends : endsDefinitions (count == o.frames.length) glyphs joined
      (c.skipUpTo 4).2.skipAll.rest = false := by
    rw [endsDefinitions, h.definitionCount?]
  have hcompletes : completesDefinition glyphs joined = false := by
    rw [completesDefinition, (joinLine h).definitionCount?, Option.isSome_none, Bool.and_false]
  rw [Outline.paragraphLine]
  simp only [joined] at hends hcompletes
  simp only [hends, hcompletes, Bool.false_eq_true, if_false, Bool.and_false, hc.1, hc.2, ite_self,
    hinterrupts, if_true]

/-- A line that starts a block, or is blank, ends the paragraph of the text. -/
lemma read (frames : List Frame) (count : Nat) {blocks start afterBlank} {line : Line} {c : Cursor}
    (hcontinued : continued (.ofLine line) (frames.reverse.map (·.container)) = (count, c))
    (hc : (c.skipUpTo 4).1 ≠ 4 ∧ underlineLevel? (c.skipUpTo 4).2.rest = none)
    (hinterrupts : ∀ inside, interrupts line inside (c.skipUpTo 4).2 = true) :
    Outline.read ⟨frames, blocks, some (.paragraph start glyphs), afterBlank, none, []⟩ line =
      (Outline.closeFrames line.start (frames.length - count)
        (Outline.add (.paragraph glyphs ⟨start, line.start⟩)
          ⟨frames, blocks, none, afterBlank, none, []⟩)).startBlocks line (c.rest.length + 1)
            c := by
  have hframes : (Outline.add (.paragraph glyphs ⟨start, line.start⟩)
      ⟨frames, blocks, none, afterBlank, none, []⟩).frames.length = frames.length := by
    cases frames <;> rfl
  rw [Outline.read]
  simp only [hcontinued]
  rw [h.paragraphLine hc (hinterrupts _), Outline.startLine, h.closeLeaf]
  simp only [hframes]

end Undefined

/-- An outline with an open paragraph, that holds some tokens if the paragraph ends. -/
inductive Pending (ts : List Shown) : Outline → Prop where
  /-- Nothing else is open. -/
  | top {blocks start glyphs afterBlank} (hg : Undefined glyphs)
      (h : ∀ span, Yields false false false (blocks.reverse ++ [.paragraph glyphs span]) ts) :
      Pending ts ⟨[], blocks, some (.paragraph start glyphs), afterBlank, none, []⟩
  /-- A quote is open. -/
  | quoted {quoteStart blocks start glyphs afterBlank} (hg : Undefined glyphs)
      (h : ∀ span span', Yields false false false
        (blocks.reverse ++ [.quote [.paragraph glyphs span] span']) ts) :
      Pending ts
        ⟨[⟨.quote quoteStart, []⟩], blocks, some (.paragraph start glyphs), afterBlank, none, []⟩
  /-- A list with an item is open. -/
  | listed {itemStart tight items blocks start glyphs afterBlank} (hg : Undefined glyphs)
      (h : ∀ tight span span', Yields false false false
        (blocks.reverse ++ [.list tight (items.reverse ++ [.item [.paragraph glyphs span] span'])])
          ts) :
      Pending ts
        ⟨[⟨.item itemStart 2, []⟩, ⟨.list '-' tight, items⟩], blocks,
          some (.paragraph start glyphs), afterBlank, none, []⟩

/-- The line without text. -/
abbrev blankLine (start : Nat) (beforeBlank : Bool) : Line :=
  textLine start [] beforeBlank

/-- A blank line ends no list. -/
lemma Between.blank {ts o} (h : Between ts o) {start beforeBlank} :
    Between ts (o.read (blankLine start beforeBlank)) := by
  cases h with
  | top h => exact .top h
  | listed h => exact .listed h

namespace Pending

variable {ts : List Shown} {o : Outline} (h : Pending ts o)
include h

/-- A blank line ends an open paragraph. -/
lemma blank {start beforeBlank} : Between ts (o.read (blankLine start beforeBlank)) := by
  have hunderline : ((⟨start, [], 0, 0⟩ : Cursor).skipUpTo 4).1 ≠ 4 ∧
      underlineLevel? ((⟨start, [], 0, 0⟩ : Cursor).skipUpTo 4).2.rest = none :=
        ⟨Nat.zero_ne_add_one 3, rfl⟩
  -- which frames stay open depends on what is open, the rest is the same in all cases
  have hread : ∀ (frames : List Frame) (count : Nat) {glyphs blocks start' afterBlank},
      Undefined glyphs →
      continued (.ofLine (blankLine start beforeBlank)) (frames.reverse.map (·.container)) =
        (count, ⟨start, [], 0, 0⟩) →
          Outline.read ⟨frames, blocks, some (.paragraph start' glyphs), afterBlank, none, []⟩
            (blankLine start beforeBlank) = _ :=
    fun frames count _ _ _ _ hg hc => hg.read frames count hc hunderline fun _ => rfl
  cases h with
  | @top blocks start' glyphs afterBlank hg h =>
    rw [hread [] 0 hg rfl]
    have hblocks := h ⟨start', start⟩
    rw [← List.reverse_cons] at hblocks
    exact @Between.top ts _ true hblocks
  | @quoted quoteStart blocks start' glyphs afterBlank hg h =>
    rw [hread [⟨.quote quoteStart, []⟩] 0 hg rfl]
    have hblocks := h ⟨start', start⟩ ⟨quoteStart, start⟩
    rw [← List.reverse_cons] at hblocks
    exact @Between.top ts _ true hblocks
  | @listed itemStart tight items blocks start' glyphs afterBlank hg h =>
    rw [hread [⟨.item itemStart 2, []⟩, ⟨.list '-' tight, items⟩] 2 hg rfl]
    exact @Between.listed ts _ [.paragraph glyphs ⟨start', start⟩] _ _ _ true
      fun tight span => h tight _ span

/-- An item ends an open paragraph. -/
lemma read (start : Nat) (beforeBlank : Bool) {cs} (hcs : Running cs) :
    ∃ o', Ready ts o' ∧ o.read (textLine start ('-' :: ' ' :: cs) beforeBlank) =
      o'.startBlocks (textLine start ('-' :: ' ' :: cs) beforeBlank) (cs.length + 3)
        ⟨start, '-' :: ' ' :: cs, 0, 0⟩ := by
  have hskip := @Cursor.skipUpTo_cons start 0 3 '-' (' ' :: cs) (by decide) (by decide)
  have hunderline : ((⟨start, '-' :: ' ' :: cs, 0, 0⟩ : Cursor).skipUpTo 4).1 ≠ 4 ∧
      underlineLevel? ((⟨start, '-' :: ' ' :: cs, 0, 0⟩ : Cursor).skipUpTo 4).2.rest = none := by
    obtain ⟨c, ds, rfl, hc⟩ := hcs.start
    have hspace := @forall_isOpening (!isSpace ·) (by decide) rfl rfl rfl c hc
    simp only [Bool.not_eq_eq_eq_not, Bool.not_true] at hspace
    rw [hskip]
    exact ⟨Nat.zero_ne_add_one 3, by simp [underlineLevel?, isBlankText, hspace]⟩
  have hinterrupts : ∀ inside, interrupts (textLine start ('-' :: ' ' :: cs) beforeBlank) inside
      ((⟨start, '-' :: ' ' :: cs, 0, 0⟩ : Cursor).skipUpTo 4).2 = true := by
    obtain ⟨c, ds, rfl, hc⟩ := id hcs.start
    intro inside
    rw [hskip, interrupts, listMarker?_hyphen hcs]
    simp only [isBlank_textStart (isTextStart_of_isOpening hc)]
    cases inside <;> simp [isBullet]
  cases h with
  | @top blocks start' glyphs afterBlank hg h =>
    have hblocks := h ⟨start', start⟩
    rw [← List.reverse_cons] at hblocks
    exact ⟨_, @Ready.top ts _ afterBlank hblocks, hg.read _ _ rfl hunderline hinterrupts⟩
  | @quoted quoteStart blocks start' glyphs afterBlank hg h =>
    have hblocks := h ⟨start', start⟩ ⟨quoteStart, start⟩
    rw [← List.reverse_cons] at hblocks
    exact ⟨_, @Ready.top ts _ afterBlank hblocks, hg.read _ _ rfl hunderline hinterrupts⟩
  | @listed itemStart tight items blocks start' glyphs afterBlank hg h =>
    let item : Block := .item [.paragraph glyphs ⟨start', start⟩] ⟨itemStart, start⟩
    refine ⟨_, @Ready.list ts tight (item :: items) blocks afterBlank fun tight => ?_,
      hg.read _ _ rfl hunderline hinterrupts⟩
    rw [List.reverse_cons]
    exact h tight _ _

end Pending

/-- Whether running text, wherever it stands, spells some tokens. -/
def SpellsLine (quoted listed : Bool) (cs : List Char) (ts : List Shown) : Prop :=
  ∀ offset after, Ended after → Spells quoted listed (glyphsFrom offset cs ++ after) ts

section Lines

variable {ts ts' : List Shown} {o : Outline} {start : Nat} {cs : List Char} {beforeBlank : Bool}

/-- The glyphs of a line of running text. -/
lemma glyphsOf_textLine {text offset column} :
    ∃ after, Ended after ∧
      glyphsOf (textLine start text beforeBlank) ⟨offset, cs, column, 0⟩ =
        glyphsFrom offset cs ++ after :=
  ⟨_, .inr ⟨_, rfl, rfl⟩, rfl⟩

/-- Running text starts with no definition. -/
lemma Running.undefined (hcs : Running cs) {text offset column} :
    Undefined (glyphsOf (textLine start text beforeBlank) ⟨offset, cs, column, 0⟩) := by
  refine ⟨by simp [glyphsOf], fun rest => ?_⟩
  have hchars : charsOf (glyphsOf (textLine start text beforeBlank) ⟨offset, cs, column, 0⟩) =
      cs ++ ['\n'] := by
    rw [glyphsOf, charsOf_append, charsOf_glyphsFrom]
    rfl
  rw [hchars, List.append_assoc]
  exact hcs.noDefinition rest

/-- Running text starts a paragraph. -/
lemma Between.running (h : Between ts o) (hcs : Running cs) (hs : SpellsLine false false cs ts') :
    Pending (ts ++ (ts' ++ [(.break, none)])) (o.read (textLine start cs beforeBlank)) := by
  obtain ⟨after, hafter, hglyphs⟩ := @glyphsOf_textLine start cs beforeBlank cs start 0
  have hg := @Running.undefined start cs beforeBlank hcs cs start 0
  obtain ⟨c, ds, rfl, hc⟩ := id hcs.start
  obtain ⟨o', hready, e⟩ := h.read start c ds beforeBlank (Text.ne_of_kind hc rfl)
    (Text.ne_of_kind hc rfl)
  obtain ⟨blocks, hblocks, hfinish⟩ := hready.finishList start
  rw [e, startBlocks_running hfinish hcs]
  refine .top hg fun span => hblocks.append (.paragraph ?_)
  rw [hglyphs]
  exact hs start after hafter

/-- Running text after the sign of a quote starts a paragraph in a quote. -/
lemma Between.quoted (h : Between ts o) (hcs : Running cs) (hs : SpellsLine true false cs ts') :
    Pending (ts ++ (ts' ++ [(.break, none)]))
      (o.read (textLine start ('>' :: ' ' :: cs) beforeBlank)) := by
  obtain ⟨after, hafter, hglyphs⟩ :=
    @glyphsOf_textLine start cs beforeBlank ('>' :: ' ' :: cs) (start + 2) 2
  have hg := @Running.undefined start cs beforeBlank hcs ('>' :: ' ' :: cs) (start + 2) 2
  obtain ⟨o', hready, e⟩ := h.read start '>' (' ' :: cs) beforeBlank (by decide) (by decide)
  obtain ⟨blocks, hblocks, hfinish⟩ := hready.finishList start
  rw [e, startBlocks_quote hcs hfinish]
  refine .quoted hg fun span span' => hblocks.append (.quote ?_)
  rw [hglyphs]
  exact hs _ after hafter

/-- Running text after the sign of an item starts a paragraph in an item. -/
lemma listed (h : Between ts o ∨ Pending ts o) (hcs : Running cs)
    (hs : SpellsLine false true cs ts') :
    Pending (ts ++ (ts' ++ [(.break, none)]))
      (o.read (textLine start ('-' :: ' ' :: cs) beforeBlank)) := by
  obtain ⟨after, hafter, hglyphs⟩ :=
    @glyphsOf_textLine start cs beforeBlank ('-' :: ' ' :: cs) (start + 2) 2
  have hg := @Running.undefined start cs beforeBlank hcs ('-' :: ' ' :: cs) (start + 2) 2
  -- the item starts anew in both cases, since it ends the paragraph of the item before it
  obtain ⟨o', hready, e⟩ := h.elim
    (·.read start '-' (' ' :: cs) beforeBlank (by decide) (by decide))
    (·.read start beforeBlank hcs)
  obtain ⟨tight, items, blocks, hblocks, hcontinue⟩ := hready.continueList start
  rw [e, startBlocks_item hcs hcontinue]
  refine .listed hg fun tight span span' => (hblocks tight).list_concat (.item ?_)
  rw [hglyphs]
  exact hs _ after hafter

/-- A comment of HTML is a block of its own. -/
lemma Between.html (h : Between ts o) {text}
    (hoccurs : Text.occurs ['-', '-', '>'] ('<' :: '!' :: '-' :: '-' :: text) = true)
    (hs : ∀ span, Yields false false false
      [.html ('<' :: '!' :: '-' :: '-' :: text ++ ['\n']) span] ts') :
    Between (ts ++ ts')
      (o.read (textLine start ('<' :: '!' :: '-' :: '-' :: text) beforeBlank)) := by
  obtain ⟨o', hready, e⟩ :=
    h.read start '<' ('!' :: '-' :: '-' :: text) beforeBlank (by decide) (by decide)
  obtain ⟨blocks, hblocks, hfinish⟩ := hready.finishList start
  obtain ⟨span, e'⟩ := @startBlocks_html blocks (textLine start ('<' :: '!' :: '-' :: '-' :: text)
    beforeBlank) start 0 (('!' :: '-' :: '-' :: text).length + 1) o' text hfinish rfl hoccurs
  rw [e, e']
  refine .top ?_
  rw [List.reverse_cons]
  exact hblocks.append (hs span)

/-- A comment of the story is a block of its own. -/
lemma Between.comment (h : Between ts o) {text} (htext : Noted text) :
    Between (ts ++ [(.comment text, none)])
      (o.read (textLine start ('<' :: noteText text) beforeBlank)) := by
  refine h.html ?_ fun span => .comment htext
  have := @Text.dropThrough?_arrow ('<' :: '!' :: '-' :: '-' :: '-' :: ' ' :: (text ++ [' '])) []
    (by simp [htext.closed])
  simp only [List.cons_append, List.append_assoc, List.nil_append] at this
  rw [Text.occurs, this]
  rfl

/-- A heading is a block of its own. -/
lemma Between.heading (h : Between ts o) {level text} (hlevel : level < 6)
    (ht : ∀ c ∈ text.head?, isSpace c = false) (htrim : trimHeading text = text)
    (hs : ∀ offset span,
      Yields false false false [.heading (level + 1) (glyphsFrom offset text) span] ts') :
    Between (ts ++ ts')
      (o.read (textLine start ('#' :: (List.replicate level '#' ++ ' ' :: text)) beforeBlank)) := by
  obtain ⟨o', hready, e⟩ :=
    h.read start '#' (List.replicate level '#' ++ ' ' :: text) beforeBlank (by decide) (by decide)
  obtain ⟨blocks, hblocks, hfinish⟩ := hready.finishList start
  obtain ⟨offset, span, e'⟩ := @startBlocks_heading blocks
    (textLine start ('#' :: (List.replicate level '#' ++ ' ' :: text)) beforeBlank) start 0
    ((List.replicate level '#' ++ ' ' :: text).length + 1) o' text hfinish level hlevel ht htrim
  rw [e, e']
  refine .top ?_
  rw [List.reverse_cons]
  exact hblocks.append (hs offset span)

end Lines

/-- An outline with an open block of code at the top. -/
inductive Fenced (ts : List Shown) (info content : List Char) : Outline → Prop where
  | mk {blocks start afterBlank} (h : Yields false false false blocks.reverse ts) :
      Fenced ts info content
        ⟨[], blocks, some (.fence start 0 '\x60' 3 info content), afterBlank, none, []⟩

/-- Skipping columns drops all white space, unless enough columns are found. -/
lemma Cursor.skipFrom_missing {offset column n cs} :
    (skipFrom offset column n cs).1 = 0 ∨
      (skipFrom offset column n cs).2.rest = cs.dropWhile fun c => c == ' ' || c == '\t' := by
  induction cs generalizing offset column n with
  | nil => cases n <;> simp [skipFrom]
  | cons c cs ih =>
    cases n with
    | zero => exact .inl (by rw [skipFrom])
    | succ n =>
      by_cases h₁ : c = ' '
      · subst h₁
        rw [skipFrom]
        exact ih
      by_cases h₂ : c = '\t'
      · subst h₂
        rw [skipFrom]
        split
        · exact .inl rfl
        · exact ih
      · simp [skipFrom, h₁, h₂]

namespace Fenced

variable {ts : List Shown} {info content : List Char} {o : Outline} {start : Nat}
  {beforeBlank : Bool}

/-- A line that does not start with a backtick is content of the block. -/
lemma line (h : Fenced ts info content o) {text}
    (ht : (text.dropWhile fun c => c == ' ' || c == '\t').head? ≠ some '\x60') :
    Fenced ts info (content ++ (text ++ ['\n'])) (o.read (textLine start text beforeBlank)) := by
  cases h with
  | @mk blocks start' afterBlank h =>
    have hskip : (⟨start, text, 0, 0⟩ : Cursor).skip 0 = (0, ⟨start, text, 0, 0⟩) := by
      cases text <;> rfl
    -- what is left of the line after up to four columns is not a closing fence
    have hopen : ¬(((⟨start, text, 0, 0⟩ : Cursor).skipUpTo 4).1 < 4 ∧
        isClosingFence '\x60' 3 ((⟨start, text, 0, 0⟩ : Cursor).skipUpTo 4).2.rest = true) := by
      rintro ⟨hcolumns, hclosing⟩
      have hmissing := @Cursor.skipFrom_missing start 0 4 text
      rw [show ((⟨start, text, 0, 0⟩ : Cursor).skipUpTo 4).1 =
        4 - (Cursor.skipFrom start 0 4 text).1 from rfl] at hcolumns
      rw [show ((⟨start, text, 0, 0⟩ : Cursor).skipUpTo 4).2 =
        (Cursor.skipFrom start 0 4 text).2 from rfl] at hclosing
      obtain hzero | hrest := hmissing
      · omega
      · rw [hrest, isClosingFence, Bool.and_eq_true, decide_eq_true_eq] at hclosing
        cases e : text.dropWhile fun c => c == ' ' || c == '\t' with
        | nil =>
          rw [e] at hclosing
          exact absurd hclosing.1 (by decide)
        | cons c cs =>
          rw [e] at hclosing ht
          have hc : (c == '\x60') = false := beq_eq_false_iff_ne.2 fun hc => ht (congrArg some hc)
          rw [List.takeWhile_cons_of_neg (by simp [hc])] at hclosing
          exact absurd hclosing.1 (by decide)
    have hread : Outline.read
        ⟨[], blocks, some (.fence start' 0 '\x60' 3 info content), afterBlank, none, []⟩
        (textLine start text beforeBlank) =
          ⟨[], blocks, some (.fence start' 0 '\x60' 3 info (content ++ (text ++ ['\n']))),
            afterBlank, none, []⟩ := by
      simp only [Outline.read, List.reverse_nil, List.map_nil, continued, Cursor.ofLine,
        textLine, hskip, if_neg hopen, List.length_nil, beq_self_eq_true, if_true]
      rfl
    rw [hread]
    exact .mk h

/-- Three backticks end the block. -/
lemma close (h : Fenced ts info content o) :
    ∃ blocks span afterBlank, Yields false false false blocks.reverse ts ∧
      o.read (textLine start ['\x60', '\x60', '\x60'] beforeBlank) =
        ⟨[], .fence info content span :: blocks, none, afterBlank, none, []⟩ := by
  cases h with
  | @mk blocks start' afterBlank h => exact ⟨blocks, _, afterBlank, h, rfl⟩

end Fenced

/-- Three backticks and a name start a block of code. -/
lemma Between.fence {ts o} (h : Between ts o) {start name beforeBlank}
    (hname : openingFence? ('\x60' :: '\x60' :: '\x60' :: name) = some ('\x60', 3))
    (hinfo : unescape ((name.dropWhile isSpace).reverse.dropWhile isSpace).reverse = name) :
    Fenced ts name []
      (o.read (textLine start ('\x60' :: '\x60' :: '\x60' :: name) beforeBlank)) := by
  obtain ⟨o', hready, e⟩ :=
    h.read start '\x60' ('\x60' :: '\x60' :: name) beforeBlank (by decide) (by decide)
  obtain ⟨blocks, hblocks, hfinish⟩ := hready.finishList start
  rw [e, startBlocks_fence hfinish hname hinfo]
  exact .mk hblocks

end Gamebook.Markup
