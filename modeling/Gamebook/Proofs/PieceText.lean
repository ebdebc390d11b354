import Gamebook.Markup.Piece
import Mathlib.Tactic.Lemma

/-!
# Pieces of plain text

Text without signs is one piece, up to the sign or the end of the text after it. Main definitions:
`isInert`, `Settled`. Main statement: `piecesFrom_settled`, and the pieces of the single signs
beside it.
-/

namespace Gamebook

namespace Markup

/-- Whether a character means nothing more than itself wherever it stands in a line; an exclamation
mark does before a bracket. -/
def isInert (c : Char) : Bool :=
  c ∉ ['\\', '\x60', '<', '[', ']', '&', '*', '_', '~', '\n', '\t', '\x0b', '\x0c']

/-- Whether a character neither ends a line nor may belong to the end of one, blanks aside. -/
def isInLine (c : Char) : Bool :=
  c ∉ ['\\', '\n', '\t', '\x0b', '\x0c']

/-- A character that means nothing more than itself ends no line. -/
lemma isInLine_of_isInert {c : Char} (h : isInert c = true) : isInLine c = true := by
  simp [isInert] at h
  simp [isInLine, h]

/-- Nothing, or the end of a line. -/
def Ended (glyphs : List Glyph) : Prop :=
  glyphs = [] ∨ ∃ glyph, glyph.char = '\n' ∧ glyphs = [glyph]

/-- Whether the blanks at the end of a text are not those before the end of a line. -/
def Flows (cs : List Char) (after : List Glyph) : Prop :=
  cs.getLast? ≠ some ' ' ∨
    ∃ glyph more, after = glyph :: more ∧ isSpace glyph.char = false ∧ glyph.char ≠ '\n'

/-- Whether the first piece of a text, wherever it stands, is not plain. -/
def StartsMarked (glyphs : List Glyph) : Prop :=
  ∀ before, ∀ piece ∈ (piecesFrom before false 0 glyphs).head?, ∀ text, piece.mark ≠ .plain text

/-- Text that is one piece before any sign and before the end of a line. -/
structure Settled (cs : List Char) : Prop where
  /-- There is some text. -/
  ne : cs ≠ []
  /-- There is no sign in it. -/
  inert : ∀ c ∈ cs, isInert c = true
  /-- It does not end with a blank, or with what may be the first half of a sign. -/
  last : ∀ c ∈ cs.getLast?, c ≠ ' ' ∧ c ≠ '!'

instance (cs : List Char) : Decidable (Settled cs) :=
  decidable_of_iff (cs ≠ [] ∧ cs.all isInert = true ∧ cs.getLast? ≠ some ' ' ∧
    cs.getLast? ≠ some '!')
    ⟨fun ⟨hne, hinert, hspace, hsign⟩ => ⟨hne, List.all_eq_true.1 hinert,
      fun _ hc => ⟨fun e => hspace (e ▸ hc), fun e => hsign (e ▸ hc)⟩⟩,
    fun h => ⟨h.ne, List.all_eq_true.2 h.inert, fun e => (h.last ' ' e).1 rfl,
      fun e => (h.last '!' e).2 rfl⟩⟩

/-- Text without signs may stand before settled text. -/
lemma Settled.append {cs ds} (hc : ∀ c ∈ cs, isInert c = true) (hd : Settled ds) :
    Settled (cs ++ ds) := by
  refine ⟨fun e => hd.ne (List.append_eq_nil_iff.1 e).2, ?_, ?_⟩
  · intro c h
    exact (List.mem_append.1 h).elim (hc c) (hd.inert c)
  · have hlast := hd.last
    rw [List.getLast?_append]
    cases e : ds.getLast? with
    | none => exact (hd.ne (List.getLast?_eq_none_iff.1 e)).elim
    | some d =>
      rw [e] at hlast
      exact hlast

/-- The glyphs of a text are those of its parts. -/
lemma glyphsFrom_append {offset cs ds} :
    glyphsFrom offset (cs ++ ds) =
      glyphsFrom offset cs ++ glyphsFrom (offset + Text.byteSize cs) ds := by
  induction cs generalizing offset with
  | nil => rfl
  | cons c cs ih =>
    rw [List.cons_append, glyphsFrom, ih]
    simp only [glyphsFrom, Text.byteSize, List.cons_append, Nat.add_assoc]

/-- The characters of glyphs are those of their parts. -/
lemma charsOf_append {glyphs more : List Glyph} :
    charsOf (glyphs ++ more) = charsOf glyphs ++ charsOf more :=
  List.map_append

/-- A text has as many glyphs as characters. -/
lemma length_glyphsFrom {offset cs} : (glyphsFrom offset cs).length = cs.length := by
  induction cs generalizing offset with
  | nil => rfl
  | cons c cs ih => exact congrArg (· + 1) ih

/-- The range of a text's glyphs. -/
lemma spanOf_glyphsFrom {fallback offset c cs} :
    spanOf fallback (glyphsFrom offset (c :: cs)) = ⟨offset, offset + Text.byteSize (c :: cs)⟩ := by
  have hlast : ∀ offset c cs, ∃ glyph, (glyphsFrom offset (c :: cs)).getLast? = some glyph ∧
      glyph.span.stop = offset + Text.byteSize (c :: cs) := by
    intro offset c cs
    induction cs generalizing offset c with
    | nil => exact ⟨_, rfl, rfl⟩
    | cons d cs ih =>
      obtain ⟨glyph, hlast, hstop⟩ := ih (offset + Text.charSize c) d
      refine ⟨glyph, ?_, ?_⟩
      · rw [glyphsFrom, glyphsFrom, List.getLast?_cons_cons]
        exact hlast
      · rw [hstop, Nat.add_assoc]
        rfl
  obtain ⟨glyph, hglyph, hstop⟩ := hlast offset c cs
  rw [spanOf, hglyph, ← hstop]
  rfl

/-- The glyphs of a text start before the end of the text. -/
lemma start_lt_of_mem_glyphsFrom {offset cs} :
    ∀ glyph ∈ glyphsFrom offset cs, glyph.span.start < offset + Text.byteSize cs := by
  induction cs generalizing offset with
  | nil => exact List.forall_mem_nil _
  | cons c cs ih =>
    intro glyph hglyph
    have hsize : 0 < Text.charSize c := c.utf8Size_pos
    obtain rfl | hglyph := List.mem_cons.1 hglyph
    · exact Nat.lt_add_of_pos_right (Nat.add_pos_left hsize _)
    · have := ih glyph hglyph
      rwa [Nat.add_assoc] at this

/-- The glyphs of a text have its characters as their source. -/
lemma rawOf_glyphsFrom {offset cs} : rawOf (glyphsFrom offset cs) = cs := by
  induction cs generalizing offset with
  | nil => rfl
  | cons c cs ih =>
    cases cs with
    | nil => rfl
    | cons d cs => exact congrArg (c :: ·) (@ih (offset + Text.charSize c))

section Inert

variable {offset : Nat} {c : Char} {cs : List Char} {after : List Glyph}

/-- After the blanks of a text in a line there is something that is no line feed. -/
lemma exists_after_blanks (h : ∀ d ∈ c :: cs, isInLine d = true) (hf : Flows (c :: cs) after) :
    ∃ blanks glyph more, glyphsFrom offset (c :: cs) ++ after = blanks ++ glyph :: more ∧
      (∀ blank ∈ blanks, isSpace blank.char = true) ∧ isSpace glyph.char = false ∧
        glyph.char ≠ '\n' := by
  have hne : c ≠ '\n' := by
    rintro rfl
    exact absurd (h '\n' List.mem_cons_self) (by decide)
  by_cases hc : isSpace c = false
  · exact ⟨[], _, _, rfl, List.forall_mem_nil _, hc, hne⟩
  rw [Bool.not_eq_false] at hc
  induction cs generalizing offset c with
  | nil =>
    have hspace : c = ' ' := by
      have := h c List.mem_cons_self
      simp [isInLine] at this
      simpa [isSpace, this] using hc
    obtain hf | ⟨glyph, more, rfl, hglyph, hne⟩ := hf
    · exact (hf (by rw [hspace]; rfl)).elim
    · refine ⟨glyphsFrom offset [c], glyph, more, rfl, ?_, hglyph, hne⟩
      intro blank hblank
      rw [List.mem_singleton.1 hblank]
      exact hc
  | cons d cs ih =>
    have hcs := fun e he => h e (List.mem_cons_of_mem c he)
    have hd : d ≠ '\n' := by
      rintro rfl
      exact absurd (hcs '\n' List.mem_cons_self) (by decide)
    have hone : ∀ blank ∈ glyphsFrom offset [c], isSpace blank.char = true := by
      intro blank hblank
      rw [List.mem_singleton.1 hblank]
      exact hc
    by_cases hspace : isSpace d = false
    · exact ⟨glyphsFrom offset [c], _, _, rfl, hone, hspace, hd⟩
    rw [Bool.not_eq_false] at hspace
    rw [Flows, List.getLast?_cons_cons] at hf
    obtain ⟨blanks, glyph, more, e, hblanks, hglyph⟩ :=
      @ih (offset + Text.charSize c) d hcs hf hd hspace
    refine ⟨glyphsFrom offset [c] ++ blanks, glyph, more, ?_, ?_, hglyph⟩
    · rw [List.append_assoc, ← e]
      rfl
    · intro blank hblank
      exact (List.mem_append.1 hblank).elim (hone blank) (hblanks blank)

/-- A text in a line does not end the line. -/
lemma lineEnd?_inLine (h : ∀ d ∈ c :: cs, isInLine d = true) (hf : Flows (c :: cs) after) :
    lineEnd? (glyphsFrom offset (c :: cs) ++ after) = none := by
  have hslash : (nextChar (glyphsFrom offset (c :: cs) ++ after) == '\\') = false := by
    rw [beq_eq_false_iff_ne]
    rintro (rfl : c = '\\')
    exact absurd (h '\\' List.mem_cons_self) (by decide)
  obtain ⟨blanks, glyph, more, e, hblanks, hglyph, hne⟩ :=
    @exists_after_blanks offset c cs after h hf
  have htake : (blanks ++ glyph :: more).takeWhile (isSpace ·.char) = blanks := by
    rw [List.takeWhile_append_of_pos hblanks, List.takeWhile_cons_of_neg (by simp [hglyph]),
      List.append_nil]
  rw [lineEnd?, hslash, e, htake]
  simp [hne]

/-- A character without meaning starts no marked piece. -/
lemma mark?_inert {before glyph} {glyphs : List Glyph} (h : isInert glyph.char = true)
    (hb : glyph.char = '!' → nextChar glyphs ≠ '[') : mark? before (glyph :: glyphs) = none := by
  simp [isInert] at h
  obtain ⟨h₁, h₂, h₃, h₄, h₅, h₆, h₇, h₈, h₉, -⟩ := h
  by_cases e : glyph.char = '!'
  · simp [mark?, e, hb e]
  · simp [mark?, h₁, h₂, h₃, h₄, h₅, h₆, h₇, h₈, h₉, e]

/-- A character that neither ends the line nor starts a marked piece is plain. -/
lemma piecesFrom_plain {before glyph} {glyphs : List Glyph}
    (hline : lineEnd? (glyph :: glyphs) = none) (hmark : mark? before (glyph :: glyphs) = none) :
    piecesFrom before false 0 (glyph :: glyphs) =
      Piece.cons ⟨.plain [glyph], glyph.span, glyph :: glyphs⟩
        (piecesFrom glyph.char false 0 glyphs) := by
  rw [piecesFrom, hline, hmark]
  rfl

/-- A marked piece is read where the line does not end. -/
lemma piecesFrom_marked {before glyph mark size skipped} {glyphs : List Glyph}
    (hline : lineEnd? (glyph :: glyphs) = none)
    (hmark : mark? before (glyph :: glyphs) = some (mark, size, skipped)) :
    piecesFrom before false 0 (glyph :: glyphs) =
      Piece.cons
        ⟨mark, spanOf glyph.span.start (((glyph :: glyphs).take size).drop skipped),
          (glyph :: glyphs).drop skipped⟩
        (piecesFrom glyph.char false (size - 1) glyphs) := by
  rw [piecesFrom, hline, hmark]
  rfl

/-- A plain piece is only joined to a plain piece after it. -/
lemma Piece.cons_plain {before glyphs span here} (ha : StartsMarked after) :
    Piece.cons ⟨.plain glyphs, span, here⟩ (piecesFrom before false 0 after) =
      ⟨.plain glyphs, span, here⟩ :: piecesFrom before false 0 after := by
  have ha := ha before
  cases hp : piecesFrom before false 0 after with
  | nil => rfl
  | cons piece pieces =>
    rw [hp] at ha
    obtain ⟨mark, span', here'⟩ := piece
    cases mark with
    | plain text => exact (ha _ rfl text rfl).elim
    | _ => rfl

/-- Text without signs before a marked piece or the end of the text is one piece. -/
lemma piecesFrom_inert {before} (h : ∀ d ∈ c :: cs, isInert d = true) (hf : Flows (c :: cs) after)
    (hb : (c :: cs).getLast? ≠ some '!') (ha : StartsMarked after) :
    ∃ before', piecesFrom before false 0 (glyphsFrom offset (c :: cs) ++ after) =
      ⟨.plain (glyphsFrom offset (c :: cs)), ⟨offset, offset + Text.byteSize (c :: cs)⟩,
        glyphsFrom offset (c :: cs) ++ after⟩ :: piecesFrom before' false 0 after := by
  have hline :=
    @lineEnd?_inLine offset c cs after (fun d hd => isInLine_of_isInert (h d hd)) hf
  -- the piece grows at its front: the induction is on the text behind the first character
  induction cs generalizing offset c before with
  | nil =>
    have hmark : mark? before (glyphsFrom offset [c] ++ after) = none := by
      refine mark?_inert (h c List.mem_cons_self) ?_
      rintro (rfl : c = '!')
      exact (hb rfl).elim
    exact ⟨c, (piecesFrom_plain hline hmark).trans (Piece.cons_plain ha)⟩
  | cons d cs ih =>
    have hcs := fun e he => h e (List.mem_cons_of_mem c he)
    rw [Flows, List.getLast?_cons_cons] at hf
    rw [List.getLast?_cons_cons] at hb
    have hmark : mark? before (glyphsFrom offset (c :: d :: cs) ++ after) = none := by
      refine mark?_inert (h c List.mem_cons_self) fun _ => ?_
      rintro (rfl : d = '[')
      exact absurd (hcs '[' List.mem_cons_self) (by decide)
    obtain ⟨before', e⟩ := @ih (offset + Text.charSize c) d c hcs hf hb
      (lineEnd?_inLine (fun e he => isInLine_of_isInert (hcs e he)) hf)
    refine ⟨before', ?_⟩
    rw [glyphsFrom, List.cons_append] at hline hmark ⊢
    rw [piecesFrom_plain hline hmark, e]
    simp only [Piece.cons, if_true, Text.byteSize, Nat.add_assoc]
    rfl

/-- A text without signs that ends with no blank is one piece. -/
lemma piecesFrom_settled {before} (h : Settled cs) (ha : StartsMarked after) :
    ∃ before', piecesFrom before false 0 (glyphsFrom offset cs ++ after) =
      ⟨.plain (glyphsFrom offset cs), ⟨offset, offset + Text.byteSize cs⟩,
        glyphsFrom offset cs ++ after⟩ :: piecesFrom before' false 0 after := by
  cases cs with
  | nil => exact (h.ne rfl).elim
  | cons c cs =>
    exact piecesFrom_inert h.inert (.inl fun e => (h.last _ e).1 rfl)
      (fun e => (h.last _ e).2 rfl) ha

/-- Nothing, or the end of a line, has no pieces. -/
lemma piecesFrom_ended {before} (ha : Ended after) : piecesFrom before false 0 after = [] := by
  obtain rfl | ⟨glyph, hglyph, rfl⟩ := ha
  · rfl
  · simp [piecesFrom, lineEnd?, nextChar, hglyph, isSpace]

/-- Nothing, or the end of a line, starts no plain piece. -/
lemma StartsMarked.of_ended (ha : Ended after) : StartsMarked after := by
  intro before piece hpiece
  rw [piecesFrom_ended ha] at hpiece
  cases hpiece

/-- A text whose first piece is marked starts with a marked piece. -/
lemma StartsMarked.of_eq (mark : Mark) {span here} {glyphs : List Glyph}
    (h : ∀ before, ∃ pieces, piecesFrom before false 0 glyphs = ⟨mark, span, here⟩ :: pieces)
    (hmark : ∀ text, mark ≠ .plain text) : StartsMarked glyphs := by
  intro before piece hpiece
  obtain ⟨pieces, e⟩ := h before
  rw [e] at hpiece
  cases hpiece
  exact hmark

/-- An opening square bracket is a piece. -/
lemma piecesFrom_linkStart {before span raw} :
    piecesFrom before false 0 (⟨'[', span, raw⟩ :: after) =
      ⟨.linkStart, span, ⟨'[', span, raw⟩ :: after⟩ :: piecesFrom '[' false 0 after :=
  rfl

/-- A closing square bracket is a piece. -/
lemma piecesFrom_linkStop {before span raw} :
    piecesFrom before false 0 (⟨']', span, raw⟩ :: after) =
      ⟨.linkStop, span, ⟨']', span, raw⟩ :: after⟩ :: piecesFrom ']' false 0 after :=
  rfl

/-- An exclamation mark and an opening square bracket are a piece. -/
lemma piecesFrom_imageStart {before span raw span' raw'} :
    piecesFrom before false 0 (⟨'!', span, raw⟩ :: ⟨'[', span', raw'⟩ :: after) =
      ⟨.imageStart, ⟨span.start, span'.stop⟩, ⟨'!', span, raw⟩ :: ⟨'[', span', raw'⟩ :: after⟩ ::
        piecesFrom '[' false 0 after :=
  rfl

/-- An opening angle bracket before an exclamation mark is a piece. -/
lemma piecesFrom_angle {before span raw span' raw'} :
    piecesFrom before false 0 (⟨'<', span, raw⟩ :: ⟨'!', span', raw'⟩ :: after) =
      ⟨.angle, span, ⟨'<', span, raw⟩ :: ⟨'!', span', raw'⟩ :: after⟩ ::
        piecesFrom '<' false 0 (⟨'!', span', raw'⟩ :: after) :=
  rfl

/-- A backtick before another character is a piece. -/
lemma piecesFrom_tick {before span raw} (h : nextChar after ≠ '\x60') :
    piecesFrom before false 0 (⟨'\x60', span, raw⟩ :: after) =
      ⟨.ticks 1 false, span, ⟨'\x60', span, raw⟩ :: after⟩ :: piecesFrom '\x60' false 0 after := by
  have hcount : leading '\x60' (⟨'\x60', span, raw⟩ :: after) = 1 := by
    cases after with
    | nil => rfl
    | cons glyph after =>
      have h : (glyph.char == '\x60') = false := beq_eq_false_iff_ne.2 h
      simp [leading, h]
  have hmark : mark? before (⟨'\x60', span, raw⟩ :: after) = some (.ticks 1 false, 1, 0) := by
    rw [← hcount]
    rfl
  have hline : lineEnd? (⟨'\x60', span, raw⟩ :: after) = none := rfl
  exact piecesFrom_marked hline hmark

end Inert

end Markup

end Gamebook
