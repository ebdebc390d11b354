import Gamebook.Markup.Lexeme
import Gamebook.Proofs.PlainText

/-!
# Running text of parts

What stands in one line is read as one part: plain text as itself, a link or image with a plain text
and address, a comment, and code. Main statements: `inlinesOf_settled`, `inlinesOf_link`,
`inlinesOf_image`, `inlinesOf_code`.
-/

namespace Gamebook

/-- A text with a closing sign of comments is skipped through the first one. -/
lemma Text.dropThrough?_arrow {cs rest} (h : '>' ∉ cs) :
    dropThrough? ['-', '-', '>'] (cs ++ '-' :: '-' :: '>' :: rest) = some rest := by
  induction cs with
  | nil => rfl
  | cons c cs ih =>
    rw [List.mem_cons, not_or] at h
    -- the third character is one of the text before the sign, or a hyphen of the sign
    have hnone : dropPrefix? ['-', '-', '>'] (c :: (cs ++ '-' :: '-' :: '>' :: rest)) = none := by
      rw [Option.eq_none_iff_forall_ne_some]
      intro more e
      rw [dropPrefix?_eq_some_iff] at e
      cases cs with
      | nil => cases e
      | cons d cs =>
        cases cs with
        | nil => cases e
        | cons e' cs =>
          simp only [List.cons_append, List.cons.injEq, List.nil_append] at e
          exact h.2 (by simp [e.2.2.1])
    rw [List.cons_append, dropThrough?, hnone]
    exact ih h.2

namespace Markup

/-- Whether a character may stand in an address. -/
def isAddressChar (c : Char) : Bool :=
  c.isLower || c.isDigit || c == '#'

/-- What holds of every character of addresses holds of a given one. -/
lemma forall_isAddressChar {p : Char → Bool} (hl : ∀ n < 26, p (Char.ofNat (97 + n)) = true)
    (hd : ∀ n < 10, p (Char.ofNat (48 + n)) = true) (hs : p '#' = true) {c : Char}
    (h : isAddressChar c = true) : p c = true := by
  rw [isAddressChar, Bool.or_eq_true, Bool.or_eq_true, beq_iff_eq] at h
  obtain (h | h) | rfl := h
  · exact Text.forall_isLower hl h
  · exact Text.forall_isDigit hd h
  · exact hs

/-- The characters of a name may stand in an address. -/
lemma isAddressChar_of_isName {cs} (h : Text.isName cs = true) :
    ∀ c ∈ cs, isAddressChar c = true := by
  intro c hc
  obtain h | h := Text.isName_chars h c hc <;> simp [isAddressChar, h]

/-- The characters of a target may stand in an address. -/
lemma isAddressChar_of_isTarget {cs} (h : Text.isTarget cs = true) :
    ∀ c ∈ cs, isAddressChar c = true := by
  unfold Text.isTarget at h
  split at h
  · intro c hc
    obtain rfl | hc := List.mem_cons.1 hc
    · rfl
    · exact isAddressChar_of_isName h c hc
  · exact isAddressChar_of_isName h

section Address

variable {cs rest : List Char} (h : ∀ c ∈ cs, isAddressChar c = true)
include h

/-- An address is read up to its closing bracket. -/
lemma bare?_address {limit} : bare? limit 0 false (cs ++ ')' :: rest) = some (cs, ')' :: rest) := by
  induction cs with
  | nil => rfl
  | cons c cs ih =>
    have hc := h c List.mem_cons_self
    have hcode := @forall_isAddressChar (fun c => 32 < c.toNat) (by decide) (by decide) rfl c hc
    have hslash : (c == '\\') = false := beq_eq_false_iff_ne.2 (Text.ne_of_kind hc rfl)
    rw [List.cons_append, bare?, if_neg (Nat.not_le.2 (of_decide_eq_true hcode)),
      if_neg (Text.ne_of_kind hc rfl), if_neg (Text.ne_of_kind hc rfl), hslash,
      Bool.false_and, ih fun d hd => h d (List.mem_cons_of_mem c hd)]
    rfl

/-- An address stands for itself. -/
lemma unescape_address : unescape cs = cs := by
  rw [unescape]
  induction cs with
  | nil => rfl
  | cons c cs ih =>
    have hc := h c List.mem_cons_self
    have href : characterReference? (c :: cs) = none := by
      unfold characterReference?
      split
      · next e => exact (Text.ne_of_kind hc rfl (List.cons.inj e).1).elim
      · next e => exact (Text.ne_of_kind hc rfl (List.cons.inj e).1).elim
      · rfl
    rw [unescapeFrom, if_neg (fun e => Text.ne_of_kind hc rfl e.1),
      if_neg (Text.ne_of_kind hc rfl), href]
    exact congrArg (c :: ·) (ih fun d hd => h d (List.mem_cons_of_mem c hd))

/-- An address in round brackets is where a link leads. -/
lemma inlineTarget?_address : inlineTarget? ('(' :: (cs ++ ')' :: rest)) = some (cs, rest) := by
  have hdest : ∃ c ds, cs ++ ')' :: rest = c :: ds ∧ isLineSpace c = false ∧ c ≠ '<' := by
    cases cs with
    | nil => exact ⟨')', rest, rfl, rfl, by decide⟩
    | cons c cs =>
      have hc := h c List.mem_cons_self
      have hspace := @forall_isAddressChar (!isLineSpace ·) (by decide) (by decide) rfl c hc
      exact ⟨c, cs ++ ')' :: rest, rfl, by simpa using hspace, Text.ne_of_kind hc rfl⟩
  have hbare := @bare?_address cs rest h maxLinkNesting
  obtain ⟨c, ds, e, hspace, hne⟩ := hdest
  have hdrop : (cs ++ ')' :: rest).dropWhile isLineSpace = cs ++ ')' :: rest := by
    rw [e, List.dropWhile_cons_of_neg (by simp [hspace])]
  have hread : destination? maxLinkNesting (cs ++ ')' :: rest) = some (cs, ')' :: rest) := by
    rw [e] at hbare ⊢
    unfold destination?
    split
    · next e' => exact (hne (List.cons.inj e').1).elim
    · exact hbare
  have hskip : skipTitle ((')' :: rest).dropWhile isLineSpace) = ')' :: rest := rfl
  rw [inlineTarget?, hdrop, hread]
  simp only [bind, Option.bind, hskip, unescape_address h]

end Address

/-- A comment of a story after its opening bracket. -/
def noteText (cs : List Char) : List Char :=
  '!' :: '-' :: '-' :: '-' :: ' ' :: (cs ++ [' ', '-', '-', '>'])

/-- A comment is no address. -/
lemma autolink?_noteText {cs rest} : autolink? (noteText cs ++ rest) = none :=
  rfl

/-- A comment is read up to its closing sign. -/
lemma inlineHtml?_noteText {cs rest} (h : '>' ∉ cs) :
    inlineHtml? (noteText cs ++ rest) = some rest := by
  have hthrough := @Text.dropThrough?_arrow ('-' :: '-' :: '-' :: ' ' :: (cs ++ [' '])) rest
    (by simp [h])
  simp only [List.cons_append, List.append_assoc, List.nil_append] at hthrough
  simp only [noteText, List.cons_append, List.append_assoc, List.nil_append]
  exact hthrough

namespace Inlines

variable {defs : List Definition} {s : Inlines} {piece : Piece} {rest : List Piece}

/-- A piece after what is read is read. -/
lemma pieces_cons (hstart : s.resume ≤ piece.span.start) (hstop : s.resume < piece.span.stop) :
    s.pieces defs (piece :: rest) = (s.piece defs piece rest).pieces defs rest := by
  rw [pieces, if_neg (Nat.not_le.2 hstop), Piece.trim, if_neg (Nat.not_lt.2 hstart)]

/-- A piece of what is read is skipped. -/
lemma pieces_skip (h : piece.span.stop ≤ s.resume) :
    s.pieces defs (piece :: rest) = s.pieces defs rest := by
  rw [pieces, if_pos h]

/-- Plain text is added. -/
lemma pieces_plain {offset cs here} (hcs : cs ≠ []) (h : s.resume ≤ offset) :
    s.pieces defs
      (⟨.plain (glyphsFrom offset cs), ⟨offset, offset + Text.byteSize cs⟩, here⟩ :: rest) =
        (s.add (.text cs ⟨offset, offset + Text.byteSize cs⟩)).pieces defs rest := by
  have hstop := Nat.lt_of_le_of_lt h (Nat.lt_add_of_pos_right (Text.byteSize_pos hcs))
  rw [pieces_cons h hstop, piece]
  simp only [charsOf_glyphsFrom]

/-- A closing bracket before an address makes a link or image. -/
lemma linkStop_address {bracket brackets span address glyph next} {after : List Glyph}
    {offset} (hs : s.brackets = bracket :: brackets) (hu : bracket.usable = true)
    (h : ∀ c ∈ address, isAddressChar c = true) :
    s.linkStop defs
      ⟨.linkStop, span, glyph :: (glyphsFrom offset ('(' :: (address ++ [')'])) ++ after)⟩ next =
        s.close bracket brackets address (offset + Text.byteSize ('(' :: (address ++ [')'])))
          (offset + Text.byteSize ('(' :: (address ++ [')']))) := by
  have hchars : charsOf (glyphsFrom offset ('(' :: (address ++ [')'])) ++ after) =
      '(' :: (address ++ ')' :: charsOf after) := by
    rw [charsOf_append, charsOf_glyphsFrom]
    simp
  -- the address ends where as many characters are left as there are glyphs after it
  have hlen : (charsOf after).length = after.length := List.length_map ..
  have htake : (glyphsFrom offset ('(' :: (address ++ [')'])) ++ after).take
      ((glyphsFrom offset ('(' :: (address ++ [')'])) ++ after).length - (charsOf after).length) =
        glyphsFrom offset ('(' :: (address ++ [')'])) := by
    rw [hlen, List.length_append, Nat.add_sub_cancel, List.take_left]
  rw [linkStop, hs]
  simp only [hu, Bool.not_true, Bool.false_eq_true, if_false, List.drop_succ_cons, List.drop_zero,
    hchars, inlineTarget?_address h]
  rw [htake, spanOf_glyphsFrom]

/-- The text and the address of a link or image, after the opening bracket. -/
def labelText (text address : List Char) : List Char :=
  text ++ ']' :: '(' :: (address ++ [')'])

/-- What stands after the text of a link starts with a closing bracket. -/
lemma startsMarked_linkStop {offset cs after} :
    StartsMarked (glyphsFrom offset (']' :: cs) ++ after) :=
  .of_eq .linkStop (fun _ => ⟨_, piecesFrom_linkStop⟩) (by rintro _ ⟨⟩)

/-- An address in round brackets is one piece. -/
lemma settled_address {address} (h : ∀ c ∈ address, isAddressChar c = true) :
    Settled ('(' :: (address ++ [')'])) := by
  rw [← List.cons_append]
  refine .append ?_ (by decide)
  intro c hc
  obtain rfl | hc := List.mem_cons.1 hc
  · rfl
  · exact forall_isAddressChar (by decide) (by decide) rfl (h c hc)

/-- The text and the address of an open bracket are read as a link or image. -/
lemma pieces_labelText {bracket offset text address after before resume tried}
    (hu : bracket.usable = true) (ht : Settled text) (h : ∀ c ∈ address, isAddressChar c = true)
    (ha : StartsMarked after) (hr : resume ≤ offset) :
    ∃ before' span span', (⟨[bracket], [], resume, tried⟩ : Inlines).pieces []
      (piecesFrom before false 0 (glyphsFrom offset (labelText text address) ++ after)) =
        (⟨[], .link bracket.image [.text text span] address span' :: bracket.outer,
          offset + Text.byteSize (labelText text address), tried⟩ : Inlines).pieces []
            (piecesFrom before' false 0 after) := by
  obtain ⟨_, etext⟩ := @piecesFrom_settled offset text
    (glyphsFrom (offset + Text.byteSize text) (']' :: '(' :: (address ++ [')'])) ++ after) before ht
    startsMarked_linkStop
  obtain ⟨before', eaddress⟩ := @piecesFrom_settled (offset + Text.byteSize text + 1)
    ('(' :: (address ++ [')'])) after ']' (settled_address h) ha
  have hsize : offset + Text.byteSize (labelText text address) =
      offset + Text.byteSize text + 1 + Text.byteSize ('(' :: (address ++ [')'])) := by
    rw [labelText, Text.byteSize_append, Text.byteSize, show Text.charSize ']' = 1 from rfl]
    omega
  have hstop : glyphsFrom (offset + Text.byteSize text) (']' :: '(' :: (address ++ [')'])) ++
      after =
      ⟨']', ⟨offset + Text.byteSize text, offset + Text.byteSize text + 1⟩, [']']⟩ ::
        (glyphsFrom (offset + Text.byteSize text + 1) ('(' :: (address ++ [')'])) ++ after) :=
    rfl
  refine ⟨before', ⟨offset, offset + Text.byteSize text⟩,
    ⟨bracket.span.start, offset + Text.byteSize (labelText text address)⟩, ?_⟩
  rw [hsize, labelText, glyphsFrom_append, List.append_assoc, etext, pieces_plain ht.ne hr, hstop,
    piecesFrom_linkStop, pieces_cons (show resume ≤ offset + Text.byteSize text by omega)
      (show resume < offset + Text.byteSize text + 1 by omega), eaddress]
  simp only [piece]
  rw [linkStop_address rfl hu h, pieces_skip (Nat.le_refl _)]
  simp only [close, add, List.map_nil, ite_self]
  rfl

end Inlines

section Kinds

variable {offset : Nat} {text address : List Char} {after : List Glyph}

/-- Text without signs stands for itself. -/
lemma inlinesOf_settled (ht : Settled text) (ha : Ended after) :
    ∃ span, inlinesOf [] (glyphsFrom offset text ++ after) = [.text text span] := by
  obtain ⟨_, e⟩ := @piecesFrom_settled offset text after '\n' ht (.of_ended ha)
  refine ⟨⟨offset, offset + Text.byteSize text⟩, ?_⟩
  rw [inlinesOf, piecesOf, e, piecesFrom_ended ha, Inlines.pieces_plain ht.ne (Nat.zero_le _)]
  rfl

/-- A text and an address in brackets are a link. -/
lemma inlinesOf_link (ht : Settled text) (h : ∀ c ∈ address, isAddressChar c = true)
    (ha : Ended after) :
    ∃ span span', inlinesOf []
      (glyphsFrom offset ('[' :: Inlines.labelText text address) ++ after) =
        [.link false [.text text span] address span'] := by
  obtain ⟨_, span, span', e⟩ := @Inlines.pieces_labelText
    ⟨false, true, ⟨offset, offset + 1⟩,
      glyphsFrom offset ('[' :: Inlines.labelText text address) ++ after, []⟩
    (offset + 1) text address after '[' 0 [] rfl ht h (.of_ended ha) (Nat.zero_le _)
  refine ⟨span, span', ?_⟩
  rw [inlinesOf, piecesOf, show glyphsFrom offset ('[' :: Inlines.labelText text address) ++ after =
      ⟨'[', ⟨offset, offset + 1⟩, ['[']⟩ ::
        (glyphsFrom (offset + 1) (Inlines.labelText text address) ++ after) from rfl,
    piecesFrom_linkStart, Inlines.pieces_cons (Nat.zero_le offset) (Nat.succ_pos offset)]
  rw [piecesFrom_ended ha] at e
  exact congrArg (fun s : Inlines => settleRuns (s.flattenAll s.brackets).inner.reverse) e

/-- An angle bracket before the rest of a comment starts the comment. -/
lemma angle_noteText {s : Inlines} {span} (hn : '>' ∉ text) :
    s.angle ⟨.angle, span, glyphsFrom offset ('<' :: noteText text) ++ after⟩ =
      { s with resume := offset + Text.byteSize ('<' :: noteText text) }.add
        (.html ('<' :: noteText text) ⟨offset, offset + Text.byteSize ('<' :: noteText text)⟩) := by
  have hchars : charsOf (glyphsFrom (offset + 1) (noteText text) ++ after) =
      noteText text ++ charsOf after := by
    rw [charsOf_append, charsOf_glyphsFrom]
  have htake : (glyphsFrom offset ('<' :: noteText text) ++ after).take
      (1 + ((noteText text ++ charsOf after).length - (charsOf after).length)) =
        glyphsFrom offset ('<' :: noteText text) := by
    rw [List.length_append, Nat.add_sub_cancel]
    exact List.take_left' (by rw [length_glyphsFrom, List.length_cons, Nat.add_comm])
  rw [Inlines.angle, show (glyphsFrom offset ('<' :: noteText text) ++ after).drop 1 =
    glyphsFrom (offset + 1) (noteText text) ++ after from rfl]
  simp only [hchars, autolink?_noteText, inlineHtml?_noteText hn]
  rw [htake, spanOf_glyphsFrom, rawOf_glyphsFrom]

/-- A comment of a story is one part. -/
lemma pieces_noteText {before} {s : Inlines} (hs : Settled (noteText text)) (hn : '>' ∉ text)
    (hr : s.resume ≤ offset) (ha : Ended after) :
    ∃ span resume, s.pieces []
      (piecesFrom before false 0 (glyphsFrom offset ('<' :: noteText text) ++ after)) =
        { s with resume }.add (.html ('<' :: noteText text) span) := by
  obtain ⟨_, e⟩ := @piecesFrom_settled (offset + 1) (noteText text) after '<' hs (.of_ended ha)
  have hpieces : piecesFrom before false 0 (glyphsFrom offset ('<' :: noteText text) ++ after) =
      ⟨.angle, ⟨offset, offset + 1⟩, glyphsFrom offset ('<' :: noteText text) ++ after⟩ ::
        piecesFrom '<' false 0 (glyphsFrom (offset + 1) (noteText text) ++ after) :=
    piecesFrom_angle
  refine ⟨⟨offset, offset + Text.byteSize ('<' :: noteText text)⟩,
    offset + Text.byteSize ('<' :: noteText text), ?_⟩
  rw [hpieces, Inlines.pieces_cons hr (Nat.lt_succ_of_le hr), e, piecesFrom_ended ha]
  simp only [Inlines.piece]
  rw [angle_noteText hn, Inlines.pieces_skip (Nat.le_of_eq (Nat.add_assoc ..))]
  rfl

/-- A text and an address in brackets after an exclamation mark are read as an image. -/
lemma pieces_image (ht : Settled text) (h : ∀ c ∈ address, isAddressChar c = true)
    (ha : StartsMarked after) :
    ∃ before span span', Inlines.empty.pieces []
      (piecesOf (glyphsFrom offset ('!' :: '[' :: Inlines.labelText text address) ++ after)) =
        (⟨[], [.link true [.text text span] address span'],
          offset + Text.byteSize ('!' :: '[' :: Inlines.labelText text address), []⟩ :
            Inlines).pieces [] (piecesFrom before false 0 after) := by
  obtain ⟨before, span, span', e⟩ := @Inlines.pieces_labelText
    ⟨true, true, ⟨offset, offset + 2⟩,
      (glyphsFrom offset ('!' :: '[' :: Inlines.labelText text address) ++ after).drop 1, []⟩
    (offset + 2) text address after '[' 0 [] rfl ht h ha (Nat.zero_le _)
  refine ⟨before, span, span', ?_⟩
  rw [piecesOf, show glyphsFrom offset ('!' :: '[' :: Inlines.labelText text address) ++ after =
      ⟨'!', ⟨offset, offset + 1⟩, ['!']⟩ :: ⟨'[', ⟨offset + 1, offset + 2⟩, ['[']⟩ ::
        (glyphsFrom (offset + 2) (Inlines.labelText text address) ++ after) from rfl,
    piecesFrom_imageStart, Inlines.pieces_cons (Nat.zero_le offset) (Nat.succ_pos (offset + 1)),
    Text.byteSize, Text.byteSize, show Text.charSize '!' = 1 from rfl,
    show Text.charSize '[' = 1 from rfl, ← Nat.add_assoc, ← Nat.add_assoc]
  exact e

/-- A text and an address in brackets after an exclamation mark are an image. -/
lemma inlinesOf_image (ht : Settled text) (h : ∀ c ∈ address, isAddressChar c = true)
    (ha : Ended after) :
    ∃ span span', inlinesOf []
      (glyphsFrom offset ('!' :: '[' :: Inlines.labelText text address) ++ after) =
        [.link true [.text text span] address span'] := by
  obtain ⟨_, span, span', e⟩ := @pieces_image offset text address after ht h (.of_ended ha)
  refine ⟨span, span', ?_⟩
  rw [inlinesOf, e, piecesFrom_ended ha]
  rfl

/-- A comment may stand right after an image. -/
lemma inlinesOf_image_note {note} (ht : Settled text) (h : ∀ c ∈ address, isAddressChar c = true)
    (hs : Settled (noteText note)) (hn : '>' ∉ note) (ha : Ended after) :
    ∃ span span' span'', inlinesOf []
      (glyphsFrom offset ('!' :: '[' :: Inlines.labelText text address ++ '<' :: noteText note) ++
        after) =
        [.link true [.text text span] address span', .html ('<' :: noteText note) span''] := by
  have hmarked : ∀ offset, StartsMarked (glyphsFrom offset ('<' :: noteText note) ++ after) :=
    fun _ => .of_eq .angle (fun _ => ⟨_, piecesFrom_angle⟩) (by rintro _ ⟨⟩)
  obtain ⟨before, span, span', e⟩ := @pieces_image offset text address _ ht h (hmarked _)
  obtain ⟨span'', resume, e'⟩ := @pieces_noteText _ note after before
    ⟨[], [.link true [.text text span] address span'],
      offset + Text.byteSize ('!' :: '[' :: Inlines.labelText text address), []⟩
    hs hn (Nat.le_refl _) ha
  refine ⟨span, span', span'', ?_⟩
  rw [glyphsFrom_append, List.append_assoc, inlinesOf, e, e']
  rfl

/-- A comment may stand after text and a space. -/
lemma inlinesOf_settled_note {note} (ht : Settled text) (hs : Settled (noteText note))
    (hn : '>' ∉ note) (ha : Ended after) :
    ∃ span span', inlinesOf [] (glyphsFrom offset (text ++ ' ' :: '<' :: noteText note) ++ after) =
      [.text (text ++ [' ']) span, .html ('<' :: noteText note) span'] := by
  have hmarked : ∀ offset, StartsMarked (glyphsFrom offset ('<' :: noteText note) ++ after) :=
    fun _ => .of_eq .angle (fun _ => ⟨_, piecesFrom_angle⟩) (by rintro _ ⟨⟩)
  obtain ⟨c, cs, rfl⟩ : ∃ c cs, text = c :: cs := List.exists_cons_of_ne_nil ht.ne
  have hinert : ∀ d ∈ c :: (cs ++ [' ']), isInert d = true := by
    intro d hd
    rw [← List.cons_append, List.mem_append, List.mem_singleton] at hd
    obtain hd | rfl := hd
    · exact ht.inert d hd
    · rfl
  have hlast : (c :: (cs ++ [' '])).getLast? = some ' ' := by
    rw [← List.cons_append, List.getLast?_concat]
  -- the space before the comment does not stand at the end of the line
  have hflows : ∀ offset, Flows (c :: (cs ++ [' ']))
      (glyphsFrom offset ('<' :: noteText note) ++ after) :=
    fun _ => .inr ⟨_, _, rfl, rfl, (by decide : '<' ≠ '\n')⟩
  obtain ⟨before, e⟩ := @piecesFrom_inert offset c (cs ++ [' '])
    (glyphsFrom (offset + Text.byteSize (c :: (cs ++ [' ']))) ('<' :: noteText note) ++ after) '\n'
    hinert (hflows _) (by rw [hlast]; decide) (hmarked _)
  obtain ⟨span', resume, e'⟩ := @pieces_noteText (offset + Text.byteSize (c :: (cs ++ [' ']))) note
    after before (Inlines.empty.add (.text (c :: (cs ++ [' ']))
      ⟨offset, offset + Text.byteSize (c :: (cs ++ [' ']))⟩)) hs hn (Nat.zero_le _) ha
  refine ⟨⟨offset, offset + Text.byteSize (c :: (cs ++ [' ']))⟩, span', ?_⟩
  have htext : c :: cs ++ ' ' :: '<' :: noteText note =
      c :: (cs ++ [' ']) ++ '<' :: noteText note := by simp
  rw [htext, glyphsFrom_append, List.append_assoc, inlinesOf, piecesOf, e,
    Inlines.pieces_plain (List.cons_ne_nil _ _) (Nat.zero_le _), e']
  rfl

end Kinds

/-- Text whose pieces hold no backtick and do not reach beyond it. -/
def Unticked (cs : List Char) : Prop :=
  ∀ offset before after, StartsMarked after →
    ∃ pieces before', piecesFrom before false 0 (glyphsFrom offset cs ++ after) =
      pieces ++ piecesFrom before' false 0 after ∧
        ∀ piece ∈ pieces, (∀ count escaped, piece.mark ≠ .ticks count escaped) ∧
          piece.span.stop ≤ offset + Text.byteSize cs

namespace Unticked

variable {cs ds : List Char}

/-- Text without signs holds no backtick. -/
lemma of_settled (h : Settled cs) : Unticked cs := by
  intro offset before after ha
  obtain ⟨before', e⟩ := @piecesFrom_settled offset cs after before h ha
  refine ⟨[_], before', e, ?_⟩
  intro piece hpiece
  rw [List.mem_singleton.1 hpiece]
  exact ⟨by rintro _ _ ⟨⟩, Nat.le_refl _⟩

/-- Two texts hold no backtick if the second one starts with a sign. -/
lemma append (hc : Unticked cs) (hd : Unticked ds)
    (hm : ∀ offset after, StartsMarked (glyphsFrom offset ds ++ after)) : Unticked (cs ++ ds) := by
  intro offset before after ha
  obtain ⟨pieces, before', e, hpieces⟩ := hc offset before _ (hm (offset + Text.byteSize cs) after)
  obtain ⟨pieces', before'', e', hpieces'⟩ := hd (offset + Text.byteSize cs) before' after ha
  refine ⟨pieces ++ pieces', before'', ?_, ?_⟩
  · rw [glyphsFrom_append, List.append_assoc, e, e', List.append_assoc]
  · rw [Text.byteSize_append]
    intro piece hpiece
    obtain hpiece | hpiece := List.mem_append.1 hpiece
    · obtain ⟨hmark, hstop⟩ := hpieces piece hpiece
      exact ⟨hmark, by omega⟩
    · obtain ⟨hmark, hstop⟩ := hpieces' piece hpiece
      exact ⟨hmark, by omega⟩

/-- A bracket before text holds no backtick. -/
lemma cons_bracket (mark : Mark) {c} (hc : Unticked cs)
    (hmark : ∀ count escaped, mark ≠ .ticks count escaped)
    (h : ∀ before span after, piecesFrom before false 0 (⟨c, span, [c]⟩ :: after) =
      ⟨mark, span, ⟨c, span, [c]⟩ :: after⟩ :: piecesFrom c false 0 after) :
    Unticked (c :: cs) := by
  intro offset before after ha
  obtain ⟨pieces, before', e, hpieces⟩ := hc (offset + Text.charSize c) c after ha
  let first : Piece :=
    ⟨mark, ⟨offset, offset + Text.charSize c⟩, glyphsFrom offset (c :: cs) ++ after⟩
  refine ⟨first :: pieces, before', ?_, ?_⟩
  · rw [glyphsFrom, List.cons_append, h, e]
    rfl
  · rw [Text.byteSize]
    intro piece hpiece
    obtain rfl | hpiece := List.mem_cons.1 hpiece
    · refine ⟨hmark, ?_⟩
      show offset + Text.charSize c ≤ _
      omega
    · obtain ⟨hmark, hstop⟩ := hpieces piece hpiece
      exact ⟨hmark, by omega⟩

/-- The text and the address of a link hold no backtick. -/
lemma labelText {text address} (ht : Settled text) (h : ∀ c ∈ address, isAddressChar c = true) :
    Unticked ('[' :: Inlines.labelText text address) := by
  refine cons_bracket .linkStart ?_ (by rintro _ _ ⟨⟩) (fun _ _ _ => piecesFrom_linkStart)
  refine append (.of_settled ht) ?_ fun _ _ => Inlines.startsMarked_linkStop
  refine cons_bracket .linkStop ?_ (by rintro _ _ ⟨⟩) (fun _ _ _ => piecesFrom_linkStop)
  exact .of_settled (Inlines.settled_address h)

end Unticked

/-- The pieces of what holds no backtick are no runs of backticks. -/
lemma findTicks_append {count} {pieces rest : List Piece}
    (h : ∀ piece ∈ pieces, ∀ count escaped, piece.mark ≠ .ticks count escaped) :
    findTicks count (pieces ++ rest) = findTicks count rest := by
  have hnone : findTicks count pieces = none := by
    rw [findTicks, List.find?_eq_none]
    intro piece hpiece
    have hmark := h piece hpiece
    cases e : piece.mark with
    | ticks found escaped => exact (hmark found escaped e).elim
    | _ => simp
  rw [findTicks, List.find?_append]
  exact congrArg (·.or (findTicks count rest)) hnone

/-- Pieces of what is read are skipped. -/
lemma Inlines.pieces_skipAll {s : Inlines} {pieces rest : List Piece}
    (h : ∀ piece ∈ pieces, piece.span.stop ≤ s.resume) :
    s.pieces [] (pieces ++ rest) = s.pieces [] rest := by
  induction pieces with
  | nil => rfl
  | cons piece pieces ih =>
    rw [List.cons_append, pieces_skip (h piece List.mem_cons_self)]
    exact ih fun piece hpiece => h piece (List.mem_cons_of_mem _ hpiece)

/-- The glyphs of a text are those before its end. -/
lemma glyphsBefore_glyphsFrom {offset cs glyph after}
    (h : glyph.span.start = offset + Text.byteSize cs) :
    glyphsBefore (offset + Text.byteSize cs) (glyphsFrom offset cs ++ glyph :: after) =
      glyphsFrom offset cs := by
  have hlt : ∀ glyph ∈ glyphsFrom offset cs,
      decide (glyph.span.start < offset + Text.byteSize cs) = true :=
    fun glyph hglyph => decide_eq_true (start_lt_of_mem_glyphsFrom glyph hglyph)
  rw [glyphsBefore, List.takeWhile_append_of_pos hlt, List.takeWhile_cons_of_neg (by simp [h]),
    List.append_nil]

/-- Text between backticks is code. -/
lemma inlinesOf_code {offset cs after} (h : Unticked cs) (hcode : codeText cs = cs)
    (hc : ∃ c ds, cs = c :: ds ∧ c ≠ '\x60') (ha : Ended after) :
    ∃ span, inlinesOf [] (glyphsFrom offset ('\x60' :: (cs ++ ['\x60'])) ++ after) =
      [.code cs span] := by
  let closing : Glyph :=
    ⟨'\x60', ⟨offset + 1 + Text.byteSize cs, offset + 1 + Text.byteSize cs + 1⟩, ['\x60']⟩
  have hglyphs : glyphsFrom offset ('\x60' :: (cs ++ ['\x60'])) ++ after =
      ⟨'\x60', ⟨offset, offset + 1⟩, ['\x60']⟩ ::
        (glyphsFrom (offset + 1) cs ++ closing :: after) := by
    rw [glyphsFrom, glyphsFrom_append, List.cons_append, List.append_assoc]
    rfl
  have hclosing : ∀ before, piecesFrom before false 0 (closing :: after) =
      [⟨.ticks 1 false, closing.span, closing :: after⟩] := by
    intro before
    have hnext : nextChar after ≠ '\x60' := by
      obtain rfl | ⟨glyph, hglyph, rfl⟩ := ha
      · decide
      · rintro (e : glyph.char = '\x60')
        rw [hglyph] at e
        cases e
    rw [show piecesFrom before false 0 (closing :: after) = _ from piecesFrom_tick hnext,
      piecesFrom_ended ha]
  have hopening : nextChar (glyphsFrom (offset + 1) cs ++ closing :: after) ≠ '\x60' := by
    obtain ⟨c, ds, rfl, hc⟩ := hc
    exact hc
  obtain ⟨pieces, before', e, hpieces⟩ := h (offset + 1) '\x60' (closing :: after)
    (.of_eq (.ticks 1 false) (fun before => ⟨[], hclosing before⟩) (by rintro _ ⟨⟩))
  refine ⟨⟨offset, closing.span.stop⟩, ?_⟩
  rw [inlinesOf, piecesOf, hglyphs, piecesFrom_tick hopening, e, hclosing,
    Inlines.pieces_cons (Nat.zero_le _) (Nat.succ_pos _)]
  -- the closing backtick is the first run of one backtick among the pieces
  simp only [Inlines.piece, Inlines.ticks, Bool.false_eq_true, if_false, Nat.one_ne_zero,
    findTicks_append fun piece hpiece => (hpieces piece hpiece).1]
  rw [show findTicks 1 [⟨.ticks 1 false, closing.span, closing :: after⟩] =
    some ⟨.ticks 1 false, closing.span, closing :: after⟩ from rfl]
  simp only [List.drop_succ_cons, List.drop_zero]
  rw [show closing.span.start = offset + 1 + Text.byteSize cs from rfl, glyphsBefore_glyphsFrom rfl,
    charsOf_glyphsFrom, hcode, Inlines.pieces_skipAll, Inlines.pieces_skip (Nat.le_refl _)]
  · rfl
  · intro piece hpiece
    exact Nat.le_succ_of_le (hpieces piece hpiece).2

end Markup

end Gamebook
