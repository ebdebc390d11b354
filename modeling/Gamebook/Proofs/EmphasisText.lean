import Gamebook.Proofs.InlineText
import Gamebook.Proofs.PieceOrder

/-!
# Text with signs of emphasis

What a line of letters, spaces and signs of emphasis is read as before its runs of signs are
settled: the line cut into texts and runs. Main definitions: `Parted` (the parts of such a line), `Legible`,
`partsOf`. Main statement: `Legible.partsOf`.
-/

namespace Gamebook.Markup

/-- Whether a character is a letter. Beyond ASCII every character counts as one. -/
def isLetter (c : Char) : Bool :=
  c.isAlpha || 127 < c.toNat

/-- Whether a character is a sign of emphasis that may stand inside of a word. -/
def isSign (c : Char) : Bool :=
  c == '*' || c == '~'

/-- Whether a character is a letter, a space or a sign of emphasis. -/
def isEmphasized (c : Char) : Bool :=
  isLetter c || c == ' ' || isSign c

/-- A letter means nothing more than itself. -/
lemma isInert_of_isLetter {c} (h : isLetter c = true) : isInert c = true := by
  simp only [isInert, List.mem_cons, List.not_mem_nil, or_false, not_or, decide_eq_true_eq]
  refine ⟨?_, ?_, ?_, ?_, ?_, ?_, ?_, ?_, ?_, ?_, ?_, ?_, ?_⟩ <;> exact Text.ne_of_kind h rfl

/-- Letters, spaces and signs of emphasis end no line. -/
lemma isInLine_of_isEmphasized {c} (h : isEmphasized c = true) : isInLine c = true := by
  simp only [isInLine, List.mem_cons, List.not_mem_nil, or_false, not_or, decide_eq_true_eq]
  refine ⟨?_, ?_, ?_, ?_, ?_⟩ <;> exact Text.ne_of_kind h rfl

/-- The parts of a text of one line before its runs of signs are settled: texts and whole runs, with
the character before the text and its offset. -/
inductive Parted : Char → Nat → List Char → List Inline → Prop where
  /-- There is no text. -/
  | nil {before offset} : Parted before offset [] []
  /-- A text is before the other parts. -/
  | text {before offset cs ds parts} (hcs : cs ≠ [])
      (h : Parted (cs.getLastD before) (offset + Text.byteSize cs) ds parts) :
      Parted before offset (cs ++ ds) (.text cs ⟨offset, offset + Text.byteSize cs⟩ :: parts)
  /-- A run, with all of its signs, is before the other parts. -/
  | run {sign before offset count cs parts} (hsign : isSign sign = true) (hbefore : before ≠ sign)
      (hafter : cs.head? ≠ some sign) (h : Parted sign (offset + (count + 1)) cs parts) :
      Parted before offset (.replicate (count + 1) sign ++ cs)
        (.run ⟨sign, count + 1, before, cs.head?.getD '\n'⟩ ⟨offset, offset + (count + 1)⟩ :: parts)

/-- Whether a piece becomes a part as it stands. -/
inductive Piece.Gives : Piece → Inline → Prop where
  /-- Plain text becomes text. -/
  | plain {text span here} (hspan : 0 < span.stop) :
      Gives ⟨.plain text, span, here⟩ (.text (charsOf text) span)
  /-- A run of signs becomes a run. -/
  | run {sign count before after span here} (hspan : 0 < span.stop) :
      Gives ⟨.run sign count before after, span, here⟩ (.run ⟨sign, count, before, after⟩ span)

/-- Pieces that become parts as they stand are added one after the other. -/
lemma Inlines.pieces_of_gives {definitions brackets inner tried pieces parts}
    (h : List.Forall₂ Piece.Gives pieces parts) :
    (⟨brackets, inner, 0, tried⟩ : Inlines).pieces definitions pieces =
      ⟨brackets, parts.reverse ++ inner, 0, tried⟩ := by
  induction h generalizing inner with
  | nil => rfl
  | @cons piece part pieces parts hpiece h ih =>
    have hinner : (part :: parts).reverse ++ inner = parts.reverse ++ part :: inner := by simp
    rw [hinner, ← ih]
    cases hpiece with
    | plain hspan => exact pieces_cons (Nat.zero_le _) hspan
    | run hspan => exact pieces_cons (Nat.zero_le _) hspan

section Pieces

variable {before sign : Char} {offset count : Nat} {cs ds : List Char} {after : List Glyph}
  {pieces : List Piece} {parts : List Inline}

/-- The last character of a text before another text. -/
lemma getLastD_append : (cs ++ ds).getLastD before = ds.getLastD (cs.getLastD before) := by
  simp only [List.getLastD_eq_getLast?, List.getLast?_append]
  cases ds.getLast? <;> simp

/-- The last character of a run. -/
lemma getLastD_replicate : (List.replicate (count + 1) sign).getLastD before = sign := by
  rw [List.replicate_succ', List.getLastD_concat]

/-- A run takes up as many bytes as it has signs. -/
lemma byteSize_run (hsign : isSign sign = true) :
    Text.byteSize (.replicate count sign) = count := by
  have hsize : Text.charSize sign = 1 := by
    rw [isSign, Bool.or_eq_true, beq_iff_eq, beq_iff_eq] at hsign
    obtain rfl | rfl := hsign <;> rfl
  induction count with
  | zero => rfl
  | succ count ih => rw [List.replicate_succ, Text.byteSize, ih, hsize, Nat.add_comm]

/-- A plain piece is a part of its own, or joined to the text after it. -/
lemma Parted.cons_plain (hcs : cs ≠ [])
    (h : Parted (cs.getLastD before) (offset + Text.byteSize cs) ds parts) :
    ∃ parts', Parted before offset (cs ++ ds) parts' ∧
      ∀ {here pieces}, List.Forall₂ Piece.Gives pieces parts →
        List.Forall₂ Piece.Gives
          (Piece.cons ⟨.plain (glyphsFrom offset cs), ⟨offset, offset + Text.byteSize cs⟩, here⟩
            pieces) parts' := by
  have hspan : 0 < offset + Text.byteSize cs :=
    Nat.lt_of_lt_of_le (Text.byteSize_pos hcs) (Nat.le_add_left ..)
  have hgives : ∀ here, Piece.Gives
      ⟨.plain (glyphsFrom offset cs), ⟨offset, offset + Text.byteSize cs⟩, here⟩
      (.text cs ⟨offset, offset + Text.byteSize cs⟩) := by
    intro here
    have := @Piece.Gives.plain (glyphsFrom offset cs) ⟨offset, offset + Text.byteSize cs⟩ here hspan
    rwa [charsOf_glyphsFrom] at this
  cases h with
  | nil =>
    refine ⟨_, .text hcs .nil, ?_⟩
    rintro here _ ⟨⟩
    exact .cons (hgives here) .nil
  | run hsign hbefore hafter h =>
    refine ⟨_, .text hcs (.run hsign hbefore hafter h), ?_⟩
    intro here pieces hpieces
    cases hpieces with
    | cons hrun hpieces =>
      cases hrun with
      | run hstop => exact .cons (hgives here) (.cons (.run hstop) hpieces)
  | @text _ _ es ds parts hes h =>
    rw [← getLastD_append, Nat.add_assoc, ← Text.byteSize_append] at h
    have hparted := Parted.text (List.append_ne_nil_of_left_ne_nil hcs es) h
    rw [List.append_assoc] at hparted
    refine ⟨_, hparted, ?_⟩
    generalize hspan' : (⟨offset + Text.byteSize cs,
      offset + Text.byteSize cs + Text.byteSize es⟩ : Span) = span
    intro here pieces hpieces
    cases hpieces with
    | cons htext hpieces =>
      cases htext with
      | @plain more _ _ hstop =>
        subst hspan'
        have hgives' := @Piece.Gives.plain (glyphsFrom offset cs ++ more)
          ⟨offset, offset + Text.byteSize cs + Text.byteSize (charsOf more)⟩ here hstop
        rw [charsOf_append, charsOf_glyphsFrom] at hgives'
        rw [Text.byteSize_append, ← Nat.add_assoc]
        simp only [Piece.cons, if_true]
        exact .cons hgives' hpieces

/-- The glyphs of a run are dropped one by one. -/
lemma piecesFrom_replicate :
    piecesFrom sign false count (glyphsFrom offset (.replicate count sign) ++ after) =
      piecesFrom sign false 0 after := by
  induction count generalizing offset with
  | zero => rfl
  | succ count ih =>
    rw [List.replicate_succ, glyphsFrom, List.cons_append, piecesFrom]
    exact ih

/-- A run is counted up to the character after it. -/
lemma leading_replicate (h : ∀ glyph ∈ after.head?, glyph.char ≠ sign) :
    leading sign (glyphsFrom offset (.replicate count sign) ++ after) = count := by
  induction count generalizing offset with
  | zero =>
    cases after with
    | nil => rfl
    | cons glyph after =>
      have hne : (glyph.char == sign) = false := beq_eq_false_iff_ne.2 (h glyph rfl)
      simp [leading, glyphsFrom, hne]
  | succ count ih =>
    rw [List.replicate_succ, glyphsFrom, List.cons_append, leading,
      List.takeWhile_cons_of_pos (by simp), List.length_cons, ← leading, ih]

/-- A run of signs is one piece: a run if it may start or end emphasis, or else plain. -/
lemma piecesFrom_run (hsign : isSign sign = true)
    (hline : lineEnd? (glyphsFrom offset (.replicate (count + 1) sign) ++ after) = none)
    (hafter : ∀ glyph ∈ after.head?, glyph.char ≠ sign) :
    piecesFrom before false 0 (glyphsFrom offset (.replicate (count + 1) sign) ++ after) =
      Piece.cons
        ⟨if isRun sign (count + 1) before (nextChar after) then
            .run sign (count + 1) before (nextChar after)
          else .plain (glyphsFrom offset (.replicate (count + 1) sign)),
          ⟨offset, offset + (count + 1)⟩,
          glyphsFrom offset (.replicate (count + 1) sign) ++ after⟩
        (piecesFrom sign false 0 after) := by
  have hcount := @leading_replicate sign offset (count + 1) after hafter
  have hlength : (glyphsFrom offset (.replicate (count + 1) sign)).length = count + 1 := by
    rw [length_glyphsFrom, List.length_replicate]
  have htake : (glyphsFrom offset (.replicate (count + 1) sign) ++ after).take (count + 1) =
      glyphsFrom offset (.replicate (count + 1) sign) :=
    List.take_left' hlength
  have hdrop :
      (glyphsFrom offset (.replicate (count + 1) sign) ++ after).drop (count + 1) = after :=
    List.drop_left' hlength
  have hspan : spanOf offset (glyphsFrom offset (.replicate (count + 1) sign)) =
      ⟨offset, offset + (count + 1)⟩ := by
    rw [List.replicate_succ, spanOf_glyphsFrom, ← List.replicate_succ, byteSize_run hsign]
  have hmark : mark? before (glyphsFrom offset (.replicate (count + 1) sign) ++ after) =
      some (if isRun sign (count + 1) before (nextChar after) then
          .run sign (count + 1) before (nextChar after)
        else .plain (glyphsFrom offset (.replicate (count + 1) sign)), count + 1, 0) := by
    rw [List.replicate_succ, glyphsFrom, List.cons_append] at hcount htake hdrop ⊢
    rw [isSign, Bool.or_eq_true, beq_iff_eq, beq_iff_eq] at hsign
    have hsigns : sign ≠ '\\' ∧ sign ≠ '\x60' ∧ sign ≠ '<' ∧ sign ≠ '!' ∧ sign ≠ '[' ∧ sign ≠ ']' ∧
        sign ≠ '&' ∧ (sign = '*' ∨ sign = '_' ∨ sign = '~') := by
      obtain rfl | rfl := hsign <;> decide
    obtain ⟨h₁, h₂, h₃, h₄, h₅, h₆, h₇, h₈⟩ := hsigns
    simp only [mark?, if_neg h₁, if_neg h₂, if_neg h₃, if_neg h₄, if_neg h₅, if_neg h₆, if_neg h₇,
      if_pos h₈, hcount, htake, hdrop]
    split <;> rfl
  rw [← @piecesFrom_replicate sign (offset + Text.charSize sign) count after]
  rw [List.replicate_succ, glyphsFrom, List.cons_append] at hline hmark htake ⊢
  rw [piecesFrom_marked hline hmark, htake]
  simp only [List.drop_zero, Nat.add_sub_cancel]
  rw [← glyphsFrom, ← List.replicate_succ, hspan]

/-- A text is a run of a character, if only an empty one, and what comes after it. -/
lemma exists_run (sign : Char) (cs : List Char) :
    ∃ count ds, cs = .replicate count sign ++ ds ∧ ds.head? ≠ some sign := by
  induction cs with
  | nil => exact ⟨0, [], rfl, by simp⟩
  | cons c cs ih =>
    by_cases hc : c = sign
    · subst hc
      obtain ⟨count, ds, rfl, hds⟩ := ih
      exact ⟨count + 1, ds, rfl, hds⟩
    · exact ⟨0, c :: cs, rfl, by simpa using hc⟩

/-- The character after a place in a line. -/
lemma nextChar_line (ha : Ended after) :
    nextChar (glyphsFrom offset cs ++ after) = cs.head?.getD '\n' := by
  cases cs with
  | nil =>
    obtain rfl | ⟨glyph, hglyph, rfl⟩ := ha
    · rfl
    · exact hglyph
  | cons c cs => rfl

/-- The character after a run is not its sign. -/
lemma ne_after_run (hsign : isSign sign = true) (h : cs.head? ≠ some sign) :
    cs.head?.getD '\n' ≠ sign := by
  cases e : cs.head? with
  | none =>
    rintro rfl
    cases hsign
  | some c =>
    rw [e] at h
    exact fun hc => h (congrArg some hc)

/-- A text of letters, spaces and signs at the end of a line, where a run of signs may start. -/
structure Legible (before : Char) (cs : List Char) : Prop where
  /-- It has nothing but letters, spaces and signs. -/
  chars : ∀ c ∈ cs, isEmphasized c = true
  /-- It ends with no space. -/
  last : cs.getLast? ≠ some ' '
  /-- If it starts with a sign, all of the run is in it. -/
  fresh : ∀ c ∈ cs.head?, isSign c = true → before ≠ c

namespace Legible

/-- The text ends no line. -/
lemma lineEnd? {c} (h : Legible before (c :: cs)) :
    lineEnd? (glyphsFrom offset (c :: cs) ++ after) = none :=
  lineEnd?_inLine (fun d hd => isInLine_of_isEmphasized (h.chars d hd)) (.inl h.last)

/-- What comes after a part of the text is such a text. -/
lemma append (c : Char) (h : Legible before (cs ++ ds))
    (hds : isSign c = true → ds.head? ≠ some c) : Legible c ds := by
  refine ⟨fun d hd => h.chars d (List.mem_append_right cs hd), ?_, ?_⟩
  · intro e
    have := h.last
    rw [List.getLast?_append, e] at this
    exact this rfl
  · rintro d hd hsign rfl
    exact hds hsign hd

/-- A character that is no sign means nothing more than itself. -/
lemma mark? {c} (h : Legible before (c :: cs)) (hsign : isSign c = false) :
    mark? before (glyphsFrom offset (c :: cs) ++ after) = none := by
  have hc := h.chars c List.mem_cons_self
  refine mark?_inert ?_ ?_
  · rw [isEmphasized, hsign, Bool.or_false, Bool.or_eq_true, beq_iff_eq] at hc
    obtain hc | rfl := hc
    · exact isInert_of_isLetter hc
    · rfl
  · rintro (rfl : c = '!')
    exact absurd hc (by decide)

end Legible

/-- Whether a text is read as its parts, whatever ends its line. -/
def ReadInParts (before : Char) (offset : Nat) (cs : List Char) : Prop :=
  ∃ parts, Parted before offset cs parts ∧ ∀ {after}, Ended after →
    List.Forall₂ Piece.Gives (piecesFrom before false 0 (glyphsFrom offset cs ++ after)) parts

namespace ReadInParts

/-- A character that is no sign is read before a text. -/
lemma cons {c} (hc : Legible before (c :: cs)) (hsign : isSign c = false)
    (h : ReadInParts c (offset + Text.charSize c) cs) : ReadInParts before offset (c :: cs) := by
  obtain ⟨parts, hparted, hpieces⟩ := h
  obtain ⟨parts', hparted', hcons⟩ := @Parted.cons_plain before offset [c] cs parts
    (List.cons_ne_nil _ _) hparted
  refine ⟨parts', hparted', fun {after} ha => ?_⟩
  have hline := @Legible.lineEnd? before offset cs after c hc
  have hmark := @Legible.mark? before offset cs after c hc hsign
  rw [glyphsFrom, List.cons_append] at hline hmark ⊢
  rw [piecesFrom_plain hline hmark]
  exact hcons (hpieces ha)

/-- A run of signs is read before a text. -/
lemma run (hrun : Legible before (.replicate (count + 1) sign ++ cs)) (hsign : isSign sign = true)
    (hcs : cs.head? ≠ some sign) (h : ReadInParts sign (offset + (count + 1)) cs) :
    ReadInParts before offset (.replicate (count + 1) sign ++ cs) := by
  obtain ⟨parts, hparted, hpieces⟩ := h
  have hglyphs : ∀ after, glyphsFrom offset (.replicate (count + 1) sign ++ cs) ++ after =
      glyphsFrom offset (.replicate (count + 1) sign) ++
        (glyphsFrom (offset + (count + 1)) cs ++ after) := by
    intro after
    rw [glyphsFrom_append, List.append_assoc, byteSize_run hsign]
  have hread : ∀ {after}, Ended after →
      piecesFrom before false 0 (glyphsFrom offset (.replicate (count + 1) sign ++ cs) ++ after) =
        Piece.cons ⟨if isRun sign (count + 1) before (cs.head?.getD '\n') then
              .run sign (count + 1) before (cs.head?.getD '\n')
            else .plain (glyphsFrom offset (.replicate (count + 1) sign)),
            ⟨offset, offset + (count + 1)⟩,
            glyphsFrom offset (.replicate (count + 1) sign ++ cs) ++ after⟩
          (piecesFrom sign false 0 (glyphsFrom (offset + (count + 1)) cs ++ after)) := by
    intro after ha
    have hline := @Legible.lineEnd? before offset (.replicate count sign ++ cs) after sign
      (by rwa [← List.cons_append, ← List.replicate_succ])
    have hafter : ∀ glyph ∈ (glyphsFrom (offset + (count + 1)) cs ++ after).head?,
        glyph.char ≠ sign := by
      intro glyph hglyph
      have hnext := @nextChar_line (offset + (count + 1)) cs after ha
      rw [nextChar, hglyph] at hnext
      rw [show glyph.char = cs.head?.getD '\n' from hnext]
      exact ne_after_run hsign hcs
    rw [← List.cons_append, ← List.replicate_succ, hglyphs] at hline
    rw [hglyphs, piecesFrom_run hsign hline hafter, nextChar_line ha]
  by_cases hmark : isRun sign (count + 1) before (cs.head?.getD '\n') = true
  · simp only [hmark, if_true] at hread
    refine ⟨_, .run hsign (hrun.fresh sign rfl hsign) hcs hparted, fun {after} ha => ?_⟩
    rw [hread ha]
    exact .cons (.run (Nat.succ_pos _)) (hpieces ha)
  · simp only [hmark, Bool.false_eq_true, if_false] at hread
    have hsize := @byteSize_run sign (count + 1) hsign
    rw [← hsize] at hparted
    obtain ⟨parts', hparted', hcons⟩ := @Parted.cons_plain before offset
      (.replicate (count + 1) sign) cs parts (by simp) (by rwa [getLastD_replicate])
    refine ⟨parts', hparted', fun {after} ha => ?_⟩
    rw [hread ha]
    rw [hsize] at hcons
    exact hcons (hpieces ha)

end ReadInParts

/-- A text of letters, spaces and signs is read as its parts. -/
theorem Legible.readInParts (h : Legible before cs) : ReadInParts before offset cs := by
  induction e : cs.length using Nat.strongRecOn generalizing before offset cs with
  | ind n ih =>
    cases cs with
    | nil =>
      refine ⟨[], .nil, fun ha => ?_⟩
      rw [show glyphsFrom offset [] = [] from rfl, List.nil_append, piecesFrom_ended ha]
      exact .nil
    | cons c cs =>
      subst e
      cases hsign : isSign c with
      | false =>
        refine .cons h hsign (ih _ (Nat.lt_succ_self _) ?_ rfl)
        exact @Legible.append before [c] cs c h fun hc => by rw [hsign] at hc; cases hc
      | true =>
        obtain ⟨count, ds, rfl, hds⟩ := exists_run c cs
        rw [← List.cons_append, ← List.replicate_succ] at h ⊢
        refine .run h hsign hds (ih _ ?_ (h.append c fun _ => hds) rfl)
        rw [List.length_cons, List.length_append]
        omega

end Pieces

/-- The parts of the text of a paragraph or heading before its runs of signs are settled. -/
def partsOf (definitions : List Definition) (glyphs : List Glyph) : List Inline :=
  let s := Inlines.empty.pieces definitions (piecesOf glyphs)
  (s.flattenAll s.brackets).inner.reverse

/-- Settling the parts gives the text. -/
lemma inlinesOf_eq {definitions glyphs} :
    inlinesOf definitions glyphs = settleRuns (partsOf definitions glyphs) :=
  rfl

/-- A line of letters, spaces and signs has its parts. -/
theorem Legible.partsOf {offset cs} (h : Legible '\n' cs) :
    ∃ parts, Parted '\n' offset cs parts ∧ ∀ {definitions after}, Ended after →
      partsOf definitions (glyphsFrom offset cs ++ after) = parts := by
  obtain ⟨parts, hparted, hpieces⟩ := h.readInParts
  refine ⟨parts, hparted, fun {definitions after} ha => ?_⟩
  rw [Markup.partsOf, Inlines.empty, piecesOf, Inlines.pieces_of_gives (hpieces ha)]
  simp [Inlines.flattenAll]

end Gamebook.Markup
