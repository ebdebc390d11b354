import Gamebook.Markup.Cursor
import Mathlib.Data.List.Basic
import Mathlib.Tactic.Lemma

/-!
# Spans in order

The lines of a source come one after the other, the glyphs of a line do so inside of it, and a
cursor only goes on in its line. Main definitions: `InOrder`, `Cursor.Within`. Main statements:
`inOrder_linesOf`, `inOrder_glyphsFrom`.
-/

namespace Gamebook

/-- A character takes up at least one byte. -/
lemma Text.length_le_byteSize {cs : List Char} : cs.length ≤ byteSize cs := by
  induction cs with
  | nil => exact Nat.le_refl _
  | cons c cs ih =>
    have hpos : 0 < charSize c := c.utf8Size_pos
    rw [List.length_cons, byteSize]
    omega

/-- A text takes up no more bytes when characters are left out. -/
lemma Text.byteSize_le_of_sublist {cs ds : List Char} (h : cs.Sublist ds) :
    byteSize cs ≤ byteSize ds := by
  induction h with
  | slnil => exact Nat.le_refl _
  | cons c _ ih => exact Nat.le_trans ih (Nat.le_add_left _ _)
  | cons_cons c _ ih => exact Nat.add_le_add_left ih _

namespace Markup

/-- Whether spans come one after the other between two offsets, and none of them is empty. -/
def InOrder (lo hi : Nat) : List Span → Prop
  | [] => lo ≤ hi
  | span :: spans => lo ≤ span.start ∧ span.start < span.stop ∧ InOrder span.stop hi spans

section InOrder

variable {lo lo' mid hi hi' : Nat} {spans spans' : List Span} {span : Span}

lemma InOrder.le (h : InOrder lo hi spans) : lo ≤ hi := by
  induction spans generalizing lo with
  | nil => exact h
  | cons span spans ih => exact Nat.le_trans (Nat.le_trans h.1 (Nat.le_of_lt h.2.1)) (ih h.2.2)

/-- The offsets may be taken farther apart. -/
lemma InOrder.mono (h : InOrder lo hi spans) (hlo : lo' ≤ lo) (hhi : hi ≤ hi') :
    InOrder lo' hi' spans := by
  induction spans generalizing lo lo' with
  | nil => exact Nat.le_trans hlo (Nat.le_trans h hhi)
  | cons span spans ih => exact ⟨Nat.le_trans hlo h.1, h.2.1, ih h.2.2 (Nat.le_refl _)⟩

lemma inOrder_append :
    InOrder lo hi (spans ++ spans') ↔ ∃ mid, InOrder lo mid spans ∧ InOrder mid hi spans' := by
  induction spans generalizing lo with
  | nil =>
    constructor
    · exact fun h => ⟨lo, Nat.le_refl lo, h⟩
    · rintro ⟨mid, hmid, h⟩
      exact h.mono hmid (Nat.le_refl hi)
  | cons span spans ih =>
    simp only [List.cons_append, InOrder, ih]
    constructor
    · rintro ⟨hlo, hspan, mid, h, h'⟩
      exact ⟨mid, ⟨hlo, hspan, h⟩, h'⟩
    · rintro ⟨mid, ⟨hlo, hspan, h⟩, h'⟩
      exact ⟨hlo, hspan, mid, h, h'⟩

lemma inOrder_singleton :
    InOrder lo hi [span] ↔ lo ≤ span.start ∧ span.start < span.stop ∧ span.stop ≤ hi :=
  Iff.rfl

/-- Spans may be left out. -/
lemma InOrder.sublist (h : InOrder lo hi spans) (hs : spans'.Sublist spans) :
    InOrder lo hi spans' := by
  induction hs generalizing lo with
  | slnil => exact h
  | cons span _ ih => exact (ih h.2.2).mono (Nat.le_trans h.1 (Nat.le_of_lt h.2.1)) (Nat.le_refl hi)
  | cons_cons span _ ih => exact ⟨h.1, h.2.1, ih h.2.2⟩

/-- Each span lies between the offsets. -/
lemma InOrder.of_mem (h : InOrder lo hi spans) (hs : span ∈ spans) : InOrder lo hi [span] :=
  h.sublist (List.singleton_sublist.2 hs)

end InOrder

section Glyphs

variable {lo hi fallback : Nat} {glyphs more : List Glyph}

lemma stop_spanOf_concat {last : Glyph} :
    (spanOf fallback (glyphs ++ [last])).stop = last.span.stop := by
  have hlast : (glyphs ++ [last]).getLast? = some last := List.getLast?_concat
  cases glyphs with
  | nil => rfl
  | cons first glyphs => rw [spanOf, hlast, List.cons_append, List.head?_cons]

lemma start_spanOf {first : Glyph} :
    (spanOf fallback (first :: glyphs)).start = first.span.start := by
  rw [spanOf, List.getLast?_cons]
  rfl

/-- Glyphs in order end where the span of the first ones ends, and the others come after it. -/
lemma InOrder.split (h : InOrder lo hi ((glyphs ++ more).map Glyph.span)) (hne : glyphs ≠ []) :
    InOrder lo (spanOf fallback glyphs).stop (glyphs.map Glyph.span) ∧
      InOrder (spanOf fallback glyphs).stop hi (more.map Glyph.span) := by
  obtain rfl | ⟨glyphs, last, rfl⟩ := List.eq_nil_or_concat glyphs
  · exact absurd rfl hne
  · rw [List.concat_eq_append] at h ⊢
    rw [stop_spanOf_concat]
    rw [List.map_append, List.map_append, List.append_assoc, inOrder_append] at h
    obtain ⟨mid, hbefore, hmid, hlast, hafter⟩ := h
    rw [List.map_append, inOrder_append]
    exact ⟨⟨mid, hbefore, hmid, hlast, Nat.le_refl _⟩, hafter⟩

/-- The span of glyphs in order is not empty and between the same offsets. -/
lemma inOrder_spanOf (h : InOrder lo hi (glyphs.map Glyph.span)) (hne : glyphs ≠ []) :
    InOrder lo hi [spanOf fallback glyphs] := by
  have hsplit := @InOrder.split lo hi fallback glyphs [] (by rwa [List.append_nil]) hne
  cases glyphs with
  | nil => exact absurd rfl hne
  | cons first glyphs =>
    obtain ⟨⟨hlo, hfirst, hrest⟩, hhi⟩ := hsplit
    rw [inOrder_singleton, start_spanOf]
    exact ⟨hlo, Nat.lt_of_lt_of_le hfirst hrest.le, hhi⟩

/-- The first of some glyphs lie between the first offset and the end of their span. -/
lemma InOrder.take {n : Nat} (h : InOrder lo hi (glyphs.map Glyph.span))
    (hne : glyphs.take n ≠ []) :
    InOrder lo (spanOf fallback (glyphs.take n)).stop ((glyphs.take n).map Glyph.span) ∧
      (spanOf fallback (glyphs.take n)).stop ≤ hi := by
  rw [← List.take_append_drop n glyphs] at h
  obtain ⟨hfirst, hrest⟩ := h.split hne
  exact ⟨hfirst, hrest.le⟩

/-- The span of glyphs ends between two offsets, even if there are none. -/
lemma InOrder.stop_spanOf (h : InOrder lo hi (glyphs.map Glyph.span))
    (hf : lo ≤ fallback ∧ fallback ≤ hi) :
    lo ≤ (spanOf fallback glyphs).stop ∧ (spanOf fallback glyphs).stop ≤ hi := by
  by_cases hne : glyphs = []
  · rw [hne]
    exact hf
  · obtain ⟨hlo, hspan, hhi⟩ := inOrder_spanOf h hne
    exact ⟨Nat.le_trans hlo (Nat.le_of_lt hspan), hhi⟩

/-- The glyphs from an offset on. -/
lemma InOrder.late {offset : Nat} (h : InOrder lo hi (glyphs.map Glyph.span)) (ho : offset ≤ hi) :
    InOrder offset hi ((glyphs.dropWhile (·.span.start < offset)).map Glyph.span) := by
  induction glyphs generalizing lo with
  | nil => exact ho
  | cons glyph glyphs ih =>
    rw [List.dropWhile_cons]
    split
    · exact ih h.2.2
    · next hg =>
      rw [decide_eq_true_eq] at hg
      exact ⟨Nat.not_lt.1 hg, h.2⟩

/-- The glyphs of a text lie one after the other where the text does. -/
lemma inOrder_glyphsFrom {offset : Nat} {cs : List Char} :
    InOrder offset (offset + Text.byteSize cs) ((glyphsFrom offset cs).map Glyph.span) := by
  induction cs generalizing offset with
  | nil => exact Nat.le_refl _
  | cons c cs ih =>
    refine ⟨Nat.le_refl _, Nat.lt_add_of_pos_right c.utf8Size_pos, ?_⟩
    rw [Text.byteSize, ← Nat.add_assoc]
    exact ih

end Glyphs

section Lines

variable {offset : Nat} {cs : List Char}

/-- The range of a line with its ending. -/
def Line.span (line : Line) : Span :=
  ⟨line.start, line.stop⟩

/-- A character more in front of a line does not move its end. -/
lemma Line.stop_cons {line : Line} {c : Char} (h : line.start = offset + Text.charSize c) :
    (Line.span { line with start := offset, text := c :: line.text }).stop = line.span.stop := by
  simp only [Line.span, Line.stop, Line.textStop, h, Text.byteSize]
  omega

/-- The lines of a text come one after the other, from its offset on. -/
lemma inOrder_linesFrom :
    InOrder offset (offset + Text.byteSize cs) ((linesFrom offset cs).map Line.span) ∧
      ∀ line ∈ (linesFrom offset cs).head?, line.start = offset := by
  -- the second part is for the last case, where a character is put in front of a line
  fun_induction linesFrom offset cs with
  | case1 offset => exact ⟨Nat.le_refl _, fun _ h => by cases h⟩
  | case2 offset cs lines ih =>
    refine ⟨⟨Nat.le_refl _, Nat.lt_add_of_pos_right (Nat.succ_pos _), ?_⟩,
      fun _ h => by cases h; rfl⟩
    have hsize : Text.byteSize ('\r' :: '\n' :: cs) = 2 + Text.byteSize cs := by
      rw [Text.byteSize, Text.byteSize, ← Nat.add_assoc]
      rfl
    rw [hsize, ← Nat.add_assoc]
    exact ih.1
  | case3 offset c cs _ hc lines ih =>
    refine ⟨⟨Nat.le_refl _, Nat.lt_add_of_pos_right (Nat.succ_pos _), ?_⟩,
      fun _ h => by cases h; rfl⟩
    have hsize : Text.charSize c = 1 := by
      obtain rfl | rfl := hc <;> rfl
    rw [Text.byteSize, hsize, ← Nat.add_assoc]
    exact ih.1
  | case4 offset c cs _ hc hlines ih =>
    rw [hlines] at ih
    have hpos := c.utf8Size_pos
    refine ⟨inOrder_singleton.2 ⟨Nat.le_refl _, Nat.lt_add_of_pos_right hpos, ?_⟩,
      fun _ h => by cases h; rfl⟩
    rw [Text.byteSize, ← Nat.add_assoc]
    exact ih.1
  | case5 offset c cs _ hc line lines hlines ih =>
    rw [hlines] at ih
    obtain ⟨⟨hlo, hline, hrest⟩, hhead⟩ := ih
    have hstart := hhead line rfl
    have hstop := Line.stop_cons hstart
    refine ⟨⟨Nat.le_refl _, ?_, ?_⟩, fun _ h => by cases h; rfl⟩
    · rw [hstop]
      exact Nat.lt_of_le_of_lt (Nat.le_trans (Nat.le_add_right _ _) hlo) hline
    · rw [hstop, Text.byteSize, ← Nat.add_assoc]
      exact hrest

/-- The lines of a source come one after the other. -/
lemma inOrder_linesOf : InOrder 0 (Text.byteSize cs) ((linesOf cs).map Line.span) := by
  have h := (@inOrder_linesFrom 0 cs).1
  rwa [Nat.zero_add] at h

lemma Line.textStop_le_stop {line : Line} : line.textStop ≤ line.stop :=
  Nat.le_add_right _ _

end Lines

namespace Cursor

variable {lo hi n : Nat} {c : Cursor}

/-- Whether a cursor and the text after it lie between two offsets. -/
structure Within (lo hi : Nat) (c : Cursor) : Prop where
  /-- The cursor is not before the first offset. -/
  lower : lo ≤ c.offset
  /-- Its text does not reach over the second offset. -/
  upper : c.offset + Text.byteSize c.rest ≤ hi

lemma Within.ofLine {line : Line} : (ofLine line).Within line.start line.textStop :=
  ⟨Nat.le_refl _, Nat.le_refl _⟩

/-- A cursor before some text is not at the end. -/
lemma Within.lt (h : c.Within lo hi) (hne : c.rest ≠ []) : c.offset < hi :=
  Nat.lt_of_lt_of_le (Nat.lt_add_of_pos_right (Text.byteSize_pos hne)) h.upper

lemma Within.skipFrom {offset column cs} (h : lo ≤ offset ∧ offset + Text.byteSize cs ≤ hi) :
    (skipFrom offset column n cs).2.Within lo hi := by
  have step {d : Char} {cs : List Char} {offset} (hd : Text.charSize d = 1)
      (h : lo ≤ offset ∧ offset + Text.byteSize (d :: cs) ≤ hi) :
      lo ≤ offset + 1 ∧ offset + 1 + Text.byteSize cs ≤ hi := by
    rw [Text.byteSize, hd] at h
    omega
  fun_induction Cursor.skipFrom offset column n cs with
  | case1 offset column cs => exact ⟨h.1, h.2⟩
  | case2 offset column n cs ih => exact ih (step rfl h)
  | case3 offset column n cs width hw => exact ⟨(step rfl h).1, (step rfl h).2⟩
  | case4 offset column n cs width hw ih => exact ih (step rfl h)
  | case5 offset column n cs => exact ⟨h.1, h.2⟩

lemma Within.skip (h : c.Within lo hi) : (c.skip n).2.Within lo hi := by
  rw [Cursor.skip]
  split
  · exact ⟨h.lower, h.upper⟩
  · exact .skipFrom ⟨h.lower, h.upper⟩

lemma Within.skipUpTo (h : c.Within lo hi) : (c.skipUpTo n).2.Within lo hi :=
  h.skip

/-- A cursor advances by characters of its text, which have at least one byte each. -/
lemma Within.advance (h : c.Within lo hi) (hn : n ≤ c.rest.length) :
    (c.advance n).Within lo hi := by
  have htaken := @Text.length_le_byteSize (c.rest.take n)
  have hsize := @Text.byteSize_append (c.rest.take n) (c.rest.drop n)
  rw [List.take_append_drop] at hsize
  rw [List.length_take, Nat.min_eq_left hn] at htaken
  have hupper := h.upper
  refine ⟨Nat.le_trans h.lower (Nat.le_add_right _ _), ?_⟩
  simp only [Cursor.advance]
  omega

lemma Within.quoteMarker? {d : Cursor} (h : c.Within lo hi) (hd : c.quoteMarker? = some d) :
    d.Within lo hi := by
  rw [Cursor.quoteMarker?] at hd
  split at hd
  · next cs hrest =>
    cases hd
    exact (h.advance (by rw [hrest]; exact Nat.succ_pos _)).skip
  · cases hd

lemma Within.finishListMarker {d : Cursor} {marker made} (h : c.Within lo hi)
    (hd : finishListMarker marker c = some (made, d)) : d.Within lo hi := by
  rw [Markup.finishListMarker] at hd
  simp only at hd
  split at hd
  · split at hd
    · cases hd
      exact h.skip
    · split at hd
      · cases hd
        exact h.skip.skipUpTo
      · cases hd
        exact h.skip
  · cases hd

lemma Within.listMarker? {d : Cursor} {indent made} (h : c.Within lo hi)
    (hd : listMarker? indent c = some (made, d)) : d.Within lo hi := by
  rw [Markup.listMarker?] at hd
  split at hd
  · cases hd
  · next sign cs hrest =>
    split at hd
    · split at hd
      · cases hd
      · exact (h.advance (by rw [hrest]; exact Nat.succ_pos _)).finishListMarker hd
    · obtain ⟨⟨index, size⟩, hnumber, hd⟩ := Option.bind_eq_some_iff.1 hd
      simp only at hd
      split at hd
      · next hdrop =>
        split at hd
        · -- the sign after the number shows that the text is longer than the number
          have hlength := congrArg List.length hdrop
          rw [List.length_drop, List.length_cons] at hlength
          exact (h.advance (by omega)).finishListMarker hd
        · cases hd
      · cases hd

end Cursor

end Markup

end Gamebook
