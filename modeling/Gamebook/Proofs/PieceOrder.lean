import Gamebook.Markup.Piece
import Gamebook.Proofs.Spans

/-!
# Pieces in order

The pieces of glyphs that come one after the other come one after the other, none of them empty, and
the text from a piece on starts no earlier than the piece. Main definition: `PiecesInOrder`. Main
statement: `piecesInOrder_piecesOf`.
-/

namespace Gamebook.Markup

/-- Whether pieces come one after the other between offsets, with the text from each piece on. -/
structure PiecesInOrder (lo hi : Nat) (pieces : List Piece) : Prop where
  /-- The ranges of the pieces come one after the other. -/
  spans : InOrder lo hi (pieces.map Piece.span)
  /-- The text from a piece on starts no earlier. -/
  here : ∀ piece ∈ pieces, InOrder piece.span.start hi (piece.here.map Glyph.span)

variable {lo hi : Nat} {piece : Piece} {pieces : List Piece} {glyphs : List Glyph}

/-- A piece before others. -/
lemma PiecesInOrder.cons (hspan : InOrder lo piece.span.stop [piece.span])
    (hhere : InOrder piece.span.start hi (piece.here.map Glyph.span))
    (h : PiecesInOrder piece.span.stop hi pieces) : PiecesInOrder lo hi (piece :: pieces) :=
  ⟨⟨hspan.1, hspan.2.1, h.spans⟩, List.forall_mem_cons.2 ⟨hhere, h.here⟩⟩

/-- A plain piece may be joined to the one after it. -/
lemma PiecesInOrder.join (h : PiecesInOrder lo hi (piece :: pieces)) :
    PiecesInOrder lo hi (piece.cons pieces) := by
  unfold Piece.cons
  split
  · next text more span here rest hmark =>
    obtain ⟨⟨hlo, hpiece, hspan, hnext, hrest⟩, hhere⟩ := h
    split
    · obtain ⟨hpiecehere, hrests⟩ := List.forall_mem_cons.1 hhere
      refine ⟨⟨hlo, ?_, hrest⟩,
        List.forall_mem_cons.2 ⟨hpiecehere, (List.forall_mem_cons.1 hrests).2⟩⟩
      exact Nat.lt_trans hpiece (Nat.lt_of_le_of_lt hspan hnext)
    · exact ⟨⟨hlo, hpiece, hspan, hnext, hrest⟩, hhere⟩
  · exact h

/-- A character reference has some characters. -/
lemma characterReference?_size {cs ds n} (h : characterReference? cs = some (ds, n)) : 0 < n := by
  unfold characterReference? at h
  split at h
  · split at h
    · obtain ⟨-, -, rfl, rfl⟩ := Option.map_eq_some_iff.1 h
      exact Nat.succ_pos _
    · obtain ⟨-, -, rfl, rfl⟩ := Option.map_eq_some_iff.1 h
      exact Nat.succ_pos _
  · simp only at h
    split at h
    · obtain ⟨-, -, rfl, rfl⟩ := Option.map_eq_some_iff.1 h
      exact Nat.succ_pos _
    · cases h
  · cases h

/-- There is a sign at least where there is one. -/
lemma leading_pos {glyph : Glyph} : 0 < leading glyph.char (glyph :: glyphs) := by
  have htake : (glyph :: glyphs).takeWhile (·.char == glyph.char) =
      glyph :: glyphs.takeWhile (·.char == glyph.char) :=
    List.takeWhile_cons_of_pos (beq_self_eq_true _)
  rw [leading, htake]
  exact Nat.succ_pos _

/-- The character that glyphs start with is not the one of their end if there are none. -/
lemma ne_nil_of_nextChar (h : nextChar glyphs ≠ '\n') : glyphs ≠ [] := by
  rintro rfl
  exact h rfl

section Mark

variable {before : Char} {glyph : Glyph} {mark : Mark} {size skipped : Nat}

/-- An escape has a backslash before its range, and there is a sign after that. -/
lemma mark?_size_of_backslash (hslash : glyph.char = '\\')
    (h : mark? before (glyph :: glyphs) = some (mark, size, skipped)) :
    skipped < size ∧ skipped < (glyph :: glyphs).length := by
  have hlength (hne : glyphs ≠ []) : 1 < (glyph :: glyphs).length :=
    Nat.succ_lt_succ (List.length_pos_iff.2 hne)
  simp only [mark?, if_pos hslash] at h
  split at h
  · next htick =>
    cases h
    have hne : glyphs ≠ [] := ne_nil_of_nextChar (by rw [htick]; decide)
    obtain ⟨next, glyphs, rfl⟩ := List.exists_cons_of_ne_nil hne
    have hnext : next.char = '\x60' := htick
    have hticks := @leading_pos glyphs next
    rw [hnext] at hticks
    exact ⟨Nat.succ_lt_succ hticks, hlength hne⟩
  · split at h
    · next hsign =>
      cases h
      refine ⟨Nat.one_lt_two, hlength (ne_nil_of_nextChar ?_)⟩
      intro hnext
      rw [hnext] at hsign
      exact absurd hsign (by decide)
    · cases h

/-- All marked pieces but escapes start where their range does. -/
lemma mark?_size_of_ne (hslash : glyph.char ≠ '\\')
    (h : mark? before (glyph :: glyphs) = some (mark, size, skipped)) :
    skipped = 0 ∧ 0 < size := by
  have hpos := @leading_pos glyphs glyph
  simp only [mark?, if_neg hslash] at h
  split at h
  · next htick =>
    cases h
    rw [htick] at hpos
    exact ⟨rfl, hpos⟩
  split at h
  · split at h <;> cases h
    exact ⟨rfl, Nat.one_pos⟩
  split at h
  · split at h <;> cases h
    exact ⟨rfl, Nat.two_pos⟩
  split at h
  · cases h
    exact ⟨rfl, Nat.one_pos⟩
  split at h
  · cases h
    exact ⟨rfl, Nat.one_pos⟩
  split at h
  · obtain ⟨⟨ds, n⟩, href, he⟩ := Option.map_eq_some_iff.1 h
    cases he
    exact ⟨rfl, characterReference?_size href⟩
  split at h
  · split at h <;> cases h <;> exact ⟨rfl, hpos⟩
  · cases h

/-- A marked piece takes up more glyphs than those before its range. -/
lemma mark?_size (h : mark? before glyphs = some (mark, size, skipped)) :
    skipped < size ∧ skipped < glyphs.length := by
  cases glyphs with
  | nil => cases h
  | cons glyph glyphs =>
    by_cases hslash : glyph.char = '\\'
    · exact mark?_size_of_backslash hslash h
    · obtain ⟨rfl, hsize⟩ := mark?_size_of_ne hslash h
      exact ⟨hsize, Nat.succ_pos _⟩

end Mark

/-- Glyphs are cut into those before a range, those of the range and those after it. -/
lemma InOrder.cut {fallback skipped size} (h : InOrder lo hi (glyphs.map Glyph.span))
    (hs : skipped < size ∧ skipped < glyphs.length) :
    let span := spanOf fallback ((glyphs.take size).drop skipped)
    InOrder lo span.stop [span] ∧ InOrder span.start hi ((glyphs.drop skipped).map Glyph.span) ∧
      InOrder span.stop hi ((glyphs.drop size).map Glyph.span) := by
  obtain ⟨first, more, hmore⟩ := List.exists_cons_of_ne_nil
    (List.length_pos_iff.1 (by rw [List.length_drop]; exact Nat.sub_pos_of_lt hs.2) :
      glyphs.drop skipped ≠ [])
  obtain ⟨n, rfl⟩ := Nat.exists_eq_add_of_lt hs.1
  have hrange : (glyphs.take (skipped + n + 1)).drop skipped = first :: more.take n := by
    rw [List.drop_take, hmore, Nat.add_assoc, Nat.add_sub_cancel_left, List.take_succ_cons]
  have hafter : glyphs.drop (skipped + n + 1) = more.drop n := by
    rw [Nat.add_assoc, ← List.drop_drop, hmore, List.drop_succ_cons]
  have hsub := h.sublist ((List.drop_sublist skipped glyphs).map Glyph.span)
  rw [hmore] at hsub
  have hsplit := @InOrder.split lo hi fallback (first :: more.take n) (more.drop n)
    (by rwa [List.cons_append, List.take_append_drop]) (List.cons_ne_nil _ _)
  simp only [hrange, hafter, hmore]
  refine ⟨inOrder_spanOf hsplit.1 (List.cons_ne_nil _ _), ?_, hsplit.2⟩
  rw [start_spanOf]
  exact ⟨Nat.le_refl _, hsub.2⟩

/-- Pieces come one after the other where their glyphs do. -/
lemma piecesInOrder_piecesFrom {before lineStart taken}
    (h : InOrder lo hi ((glyphs.drop taken).map Glyph.span)) :
    PiecesInOrder lo hi (piecesFrom before lineStart taken glyphs) := by
  induction glyphs generalizing lo before lineStart taken with
  | nil =>
    rw [List.drop_nil] at h
    cases taken <;> exact ⟨h, List.forall_mem_nil _⟩
  | cons glyph glyphs ih =>
    cases taken with
    | succ taken => exact ih h
    -- each way on drops some glyphs from the front, and the bounds hold for the rest
    | zero =>
      have hnone : PiecesInOrder lo hi [] := ⟨h.le, List.forall_mem_nil _⟩
      rw [piecesFrom]
      simp only
      split
      · exact ih (h.sublist (List.sublist_cons_self _ _))
      · split
        · exact hnone
        · next size goesOn _ =>
          split
          · obtain ⟨hspan, hhere, hrest⟩ := @InOrder.cut lo hi (glyph :: glyphs) glyph.span.start 0
              (size + 1) h ⟨Nat.succ_pos _, Nat.succ_pos _⟩
            exact .cons hspan hhere (ih hrest)
          · exact hnone
        · split
          · next mark size skipped hmark =>
            have hsize := mark?_size hmark
            obtain ⟨hspan, hhere, hrest⟩ := @InOrder.cut lo hi (glyph :: glyphs) glyph.span.start
              skipped size h hsize
            obtain ⟨n, rfl⟩ := Nat.exists_eq_add_of_lt hsize.1
            exact (PiecesInOrder.cons hspan hhere (ih hrest)).join
          · have hhere : InOrder glyph.span.start hi ((glyph :: glyphs).map Glyph.span) :=
              ⟨Nat.le_refl _, h.2⟩
            have hspan : InOrder lo glyph.span.stop [glyph.span] := ⟨h.1, h.2.1, Nat.le_refl _⟩
            exact (PiecesInOrder.cons hspan hhere (ih h.2.2)).join

/-- The pieces of a text come one after the other where its glyphs do. -/
lemma piecesInOrder_piecesOf (h : InOrder lo hi (glyphs.map Glyph.span)) :
    PiecesInOrder lo hi (piecesOf glyphs) :=
  piecesInOrder_piecesFrom h

end Gamebook.Markup
