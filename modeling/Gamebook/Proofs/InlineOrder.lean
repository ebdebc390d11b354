import Gamebook.Markup.Inline.Link
import Gamebook.Proofs.PieceOrder

/-!
# Running text in order

The parts of running text come one after the other, and what stands for a link lies within the link.
Only a text may start one byte early, where it repeats the character before a tilde. The proof
follows the reading of pieces, with a stack of open brackets. Main definitions: `InlinesInOrder`,
`Inlines.Reaches`. Main statement: `inlinesInOrder_inlinesOf`.
-/

namespace Gamebook.Markup

/-- The range of a part that is no text and no link. -/
def Inline.leafSpan? : Inline → Option Span
  | run _ span => some span
  | lineBreak span => some span
  | code _ span => some span
  | html _ span => some span
  | _ => none

section Autolink

variable {cs target rest : List Char}

lemma uriLink?_length (h : uriLink? cs = some (target, rest)) : rest.length + 2 ≤ cs.length := by
  unfold uriLink? at h
  split at h
  · cases h
  · simp only at h
    split at h
    · next path hpath =>
      split at h
      · next rest' hrest =>
        have hpath := congrArg List.length hpath
        have hrest := congrArg List.length hrest
        simp only [List.length_drop, List.length_cons] at hpath hrest ⊢
        split at h
        · cases h
          omega
        · cases h
      · cases h
    · cases h

lemma mailLink?_length (h : mailLink? cs = some (target, rest)) : rest.length + 2 ≤ cs.length := by
  unfold mailLink? at h
  simp only at h
  split at h
  · next after hafter =>
    obtain ⟨rest', hrest, h⟩ := Option.bind_eq_some_iff.1 h
    have hrest := congrArg List.length (Text.dropPrefix?_eq_some_iff.1 hrest)
    have hafter := congrArg List.length hafter
    simp only [List.length_drop, List.length_append, List.length_cons, List.length_nil]
      at hrest hafter
    split at h
    · cases h
      omega
    · cases h
  · cases h

/-- An address in angle brackets has a character at least, and a bracket after it. -/
lemma autolink?_length (h : autolink? cs = some (target, rest)) : rest.length + 2 ≤ cs.length := by
  obtain h | ⟨-, h⟩ := Option.or_eq_some_iff.1 h
  · exact uriLink?_length h
  · exact mailLink?_length h

end Autolink

/-- Whether parts of running text come one after the other between two offsets. -/
inductive InlinesInOrder : Nat → Nat → List Inline → Prop
  | nil {lo hi} : lo ≤ hi → InlinesInOrder lo hi []
  | text {lo mid hi chars span parts} :
    lo ≤ span.start + 1 → span.start < mid → lo ≤ mid → InlinesInOrder mid hi parts →
    InlinesInOrder lo hi (.text chars span :: parts)
  | leaf {lo hi part span parts} :
    part.leafSpan? = some span → lo ≤ span.start → span.start < span.stop →
    InlinesInOrder span.stop hi parts → InlinesInOrder lo hi (part :: parts)
  | link {lo hi image children target span parts} :
    lo ≤ span.start → span.start < span.stop → InlinesInOrder span.start span.stop children →
    InlinesInOrder span.stop hi parts →
    InlinesInOrder lo hi (.link image children target span :: parts)

namespace InlinesInOrder

variable {lo lo' mid hi hi' : Nat} {parts parts' : List Inline} {span : Span}

lemma le (h : InlinesInOrder lo hi parts) : lo ≤ hi := by
  induction h with
  | nil h => exact h
  | text _ _ hmid _ ih => exact Nat.le_trans hmid ih
  | leaf _ hlo hspan _ ih => exact Nat.le_trans hlo (Nat.le_trans (Nat.le_of_lt hspan) ih)
  | link hlo hspan _ _ _ ih => exact Nat.le_trans hlo (Nat.le_trans (Nat.le_of_lt hspan) ih)

lemma mono (h : InlinesInOrder lo hi parts) (hlo : lo' ≤ lo) (hhi : hi ≤ hi') :
    InlinesInOrder lo' hi' parts := by
  induction h generalizing lo' with
  | nil h => exact .nil (Nat.le_trans hlo (Nat.le_trans h hhi))
  | text hstart hmid hle _ ih =>
    exact .text (Nat.le_trans hlo hstart) hmid (Nat.le_trans hlo hle) (ih (Nat.le_refl _) hhi)
  | leaf hspan hstart hstop _ ih =>
    exact .leaf hspan (Nat.le_trans hlo hstart) hstop (ih (Nat.le_refl _) hhi)
  | link hstart hstop hchildren _ _ ih =>
    exact .link (Nat.le_trans hlo hstart) hstop hchildren (ih (Nat.le_refl _) hhi)

lemma append (h : InlinesInOrder lo mid parts) (h' : InlinesInOrder mid hi parts') :
    InlinesInOrder lo hi (parts ++ parts') := by
  induction h with
  | nil hle => exact h'.mono hle (Nat.le_refl _)
  | text hstart hmid hle _ ih => exact .text hstart hmid hle (ih h')
  | leaf hspan hstart hstop _ ih => exact .leaf hspan hstart hstop (ih h')
  | link hstart hstop hchildren _ _ ih => exact .link hstart hstop hchildren (ih h')

/-- A text where it is. -/
lemma ofText {chars} (h : InOrder lo hi [span]) : InlinesInOrder lo hi [.text chars span] :=
  .text (Nat.le_succ_of_le h.1) h.2.1 (Nat.le_trans h.1 (Nat.le_of_lt h.2.1)) (.nil h.2.2)

lemma ofLeaf {part : Inline} (he : part.leafSpan? = some span) (h : InOrder lo hi [span]) :
    InlinesInOrder lo hi [part] :=
  .leaf he h.1 h.2.1 (.nil h.2.2)

/-- A run of signs becomes text, one byte early at most, or is left out. -/
lemma settleRun_cases {strikes run} :
    settleRun strikes run span = none ∨ ∃ chars place,
      settleRun strikes run span = some (.text chars place) ∧
        span.start ≤ place.start + 1 ∧ place.start ≤ span.start := by
  have hlate : span.start ≤ span.start - 1 + 1 := Nat.sub_le_iff_le_add.1 (Nat.le_refl _)
  unfold settleRun
  split
  · split
    · exact .inr ⟨_, _, rfl, Nat.le_succ _, Nat.le_refl _⟩
    · exact .inl rfl
  · split
    · split
      · exact .inr ⟨_, _, rfl, hlate, Nat.sub_le _ _⟩
      · exact .inl rfl
    · exact .inr ⟨_, _, rfl, Nat.le_succ _, Nat.le_refl _⟩

/-- Runs of signs become text, one byte early at most, or are left out. -/
lemma settleRuns (h : InlinesInOrder lo hi parts) : InlinesInOrder lo hi (settleRuns parts) := by
  rw [Markup.settleRuns]
  generalize strikes parts = strikes
  induction h with
  | nil h => exact .nil h
  | text hstart hmid hle _ ih => exact .text hstart hmid hle ih
  | @leaf lo hi part span parts hspan hstart hstop _ ih =>
    cases part with
    | run run place =>
      cases hspan
      have hle := Nat.le_trans hstart (Nat.le_of_lt hstop)
      obtain hnone | ⟨chars, place, hsome, hearly, hlate⟩ := @settleRun_cases span strikes run
      · simp only [List.filterMap_cons, hnone]
        exact ih.mono hle (Nat.le_refl _)
      · simp only [List.filterMap_cons, hsome]
        exact .text (Nat.le_trans hstart hearly) (Nat.lt_of_le_of_lt hlate hstop) hle ih
    | text => cases hspan
    | link => cases hspan
    | _ => exact .leaf hspan hstart hstop ih
  | link hstart hstop hchildren _ _ ih => exact .link hstart hstop hchildren ih

end InlinesInOrder

namespace Inlines

variable {lo stop stop' : Nat} {brackets : List Bracket} {bracket : Bracket}
  {inner : List Inline} {part : Inline}

/-- Whether what is read reaches up to an offset in order, with open brackets in it. -/
def Reaches (lo stop : Nat) : List Bracket → List Inline → Prop
  | [], inner => InlinesInOrder lo stop inner.reverse
  | bracket :: brackets, inner =>
    Reaches lo bracket.span.start brackets bracket.outer ∧ bracket.span.start < bracket.span.stop ∧
      InlinesInOrder bracket.span.stop stop inner.reverse

lemma Reaches.mono (h : Reaches lo stop brackets inner) (hle : stop ≤ stop') :
    Reaches lo stop' brackets inner := by
  cases brackets with
  | nil => exact InlinesInOrder.mono h (Nat.le_refl lo) hle
  | cons bracket brackets => exact ⟨h.1, h.2.1, h.2.2.mono (Nat.le_refl _) hle⟩

/-- Parts that come next are read. -/
lemma Reaches.add (h : Reaches lo stop brackets inner) (parts : List Inline)
    (hparts : InlinesInOrder stop stop' parts.reverse) :
    Reaches lo stop' brackets (parts ++ inner) := by
  cases brackets with
  | nil =>
    rw [Reaches, List.reverse_append]
    exact h.append hparts
  | cons bracket brackets =>
    rw [Reaches, List.reverse_append]
    exact ⟨h.1, h.2.1, h.2.2.append hparts⟩

/-- The sign of a bracket is given up on. -/
lemma Reaches.flatten (h : Reaches lo stop (bracket :: brackets) inner) :
    Reaches lo stop brackets (inner ++ .text bracket.sign bracket.span :: bracket.outer) := by
  obtain ⟨houter, hspan, hinner⟩ := h
  have htext : InlinesInOrder bracket.span.start stop
      (inner ++ [Inline.text bracket.sign bracket.span]).reverse := by
    rw [List.reverse_append]
    exact (InlinesInOrder.ofText ⟨Nat.le_refl _, hspan, Nat.le_refl _⟩).append hinner
  rw [← List.singleton_append, ← List.append_assoc]
  exact houter.add _ htext

/-- Brackets may change what they can do. -/
lemma Reaches.map {f : Bracket → Bracket} (h : Reaches lo stop brackets inner)
    (hf : ∀ b, (f b).span = b.span ∧ (f b).outer = b.outer) :
    Reaches lo stop (brackets.map f) inner := by
  induction brackets generalizing stop inner with
  | nil => exact h
  | cons bracket brackets ih =>
    rw [List.map_cons, Reaches, (hf bracket).1, (hf bracket).2]
    exact ⟨ih h.1, h.2⟩

/-- Whether what is read reaches up to an offset that no later part is read before. -/
def UpTo (lo mid hi : Nat) (s : Inlines) : Prop :=
  ∃ stop, Reaches lo stop s.brackets s.inner ∧ stop ≤ hi ∧ stop ≤ max s.resume mid

/-- An address stops no later than the bracket that comes after it. -/
lemma InOrder.address {glyphs : List Glyph} {fallback size}
    (h : InOrder lo hi (glyphs.map Glyph.span)) (hne : glyphs ≠ []) :
    let stop := (spanOf fallback (glyphs.take (size + 2))).stop
    lo < stop ∧ InOrder lo stop [spanOf fallback (glyphs.take (size + 1))] ∧ stop ≤ hi := by
  obtain ⟨first, more, rfl⟩ := List.exists_cons_of_ne_nil hne
  obtain ⟨hbracket, hhi⟩ := @InOrder.take _ _ fallback _ (size + 2) h (List.cons_ne_nil _ _)
  have haddress := hbracket.sublist
    ((List.take_sublist_take_left (Nat.le_succ (size + 1))).map Glyph.span)
  have hspan := @inOrder_spanOf _ _ fallback _ haddress (List.cons_ne_nil _ _)
  exact ⟨Nat.lt_of_le_of_lt hspan.1 (Nat.lt_of_lt_of_le hspan.2.1 hspan.2.2), hspan, hhi⟩

section Step

variable {hi : Nat} {s : Inlines} {piece : Piece} {pieces : List Piece}
  (hs : Reaches lo piece.span.start s.brackets s.inner)
  (hp : PiecesInOrder piece.span.start hi (piece :: pieces))
include hs hp

lemma upTo_add {part : Inline}
    (hpart : InlinesInOrder piece.span.start piece.span.stop [part]) :
    (s.add part).UpTo lo piece.span.stop hi :=
  ⟨piece.span.stop, hs.add [part] hpart, hp.spans.2.2.le, Nat.le_max_right _ _⟩

/-- A piece becomes text where it is. -/
lemma upTo_addSign {sign} : (s.addSign sign piece.span).UpTo lo piece.span.stop hi :=
  upTo_add hs hp (.ofText ⟨hp.spans.1, hp.spans.2.1, Nat.le_refl _⟩)

/-- A bracket is open from its sign on. -/
lemma upTo_enter {image} : (s.enter image piece).UpTo lo piece.span.stop hi :=
  ⟨piece.span.stop, ⟨hs, hp.spans.2.1, .nil (Nat.le_refl _)⟩, hp.spans.2.2.le,
    Nat.le_max_right _ _⟩

/-- A run of backticks is code up to the run that closes it. -/
lemma upTo_ticks {count escaped} :
    (s.ticks piece count escaped pieces).UpTo lo piece.span.stop hi := by
  rw [ticks]
  generalize (if escaped then count - 1 else count) = size
  simp only
  split
  · exact upTo_addSign hs hp
  · next closing hfind =>
    have hmem : closing ∈ pieces := by
      split at hfind
      · cases hfind
      · exact List.mem_of_find?_eq_some hfind
    have hclosing := hp.spans.2.2.of_mem (List.mem_map_of_mem hmem)
    have hafter : piece.span.start + 1 < closing.span.stop :=
      Nat.lt_of_le_of_lt (Nat.le_trans hp.spans.2.1 hclosing.1) hclosing.2.1
    split
    · refine ⟨closing.span.stop, hs.add [_, _] ?_, hclosing.2.2, Nat.le_max_left _ _⟩
      exact .text (Nat.le_succ _) (Nat.lt_succ_self _) (Nat.le_succ _)
        (.ofLeaf rfl ⟨Nat.le_refl _, hafter, Nat.le_refl _⟩)
    · refine ⟨closing.span.stop, hs.add [_] ?_, hclosing.2.2, Nat.le_max_left _ _⟩
      exact .ofLeaf rfl ⟨Nat.le_refl _, Nat.lt_of_succ_lt hafter, Nat.le_refl _⟩

/-- An address in angle brackets, or HTML, reaches up to its bracket. -/
lemma upTo_angle : (s.angle piece).UpTo lo piece.span.stop hi := by
  rw [angle]
  simp only
  split
  · next target rest hlink =>
    have hlength := autolink?_length hlink
    have hglyphs := (List.forall_mem_cons.1 hp.here).1.sublist
      ((List.drop_sublist 1 piece.here).map Glyph.span)
    simp only [charsOf, List.length_map] at hlength ⊢
    generalize piece.here.drop 1 = glyphs at *
    obtain ⟨size, hsize⟩ : ∃ size, glyphs.length - rest.length = size + 2 :=
      Nat.exists_eq_add_of_le' (Nat.le_sub_of_add_le' hlength)
    rw [hsize]
    have hne : glyphs ≠ [] :=
      List.length_pos_iff.1 (Nat.lt_of_lt_of_le (Nat.succ_pos _) hlength)
    obtain ⟨hlo, haddress, hhi⟩ := @InOrder.address _ _ glyphs piece.span.stop size hglyphs hne
    exact ⟨_, hs.add [_] (.link (Nat.le_refl _) hlo (.ofText haddress) (.nil (Nat.le_refl _))), hhi,
      Nat.le_max_left _ _⟩
  · split
    · next rest hhtml =>
      have hne : piece.here.take (1 + ((charsOf (piece.here.drop 1)).length - rest.length)) ≠ [] := by
        rw [Nat.add_comm]
        intro hnil
        obtain hnil | hnil := List.take_eq_nil_iff.1 hnil
        · cases hnil
        · rw [hnil] at hhtml
          cases hhtml
      obtain ⟨hlo, hspan, hhi⟩ := @inOrder_spanOf _ _ piece.span.stop _
        ((List.forall_mem_cons.1 hp.here).1.sublist ((List.take_sublist _ _).map Glyph.span)) hne
      exact ⟨_, hs.add [_] (.ofLeaf rfl ⟨hlo, hspan, Nat.le_refl _⟩), hhi, Nat.le_max_left _ _⟩
    · exact upTo_addSign hs hp

omit hs hp in
/-- A bracket with what is between it and a later offset becomes a link. -/
lemma upTo_close {bracket brackets target stop resume}
    (h : Reaches lo piece.span.start (bracket :: brackets) s.inner)
    (hstop : piece.span.start ≤ stop)
    (hhi : stop ≤ hi) (hresume : stop ≤ resume) :
    (s.close bracket brackets target stop resume).UpTo lo piece.span.stop hi := by
  obtain ⟨houter, hspan, hinner⟩ := h
  have hlink : InlinesInOrder bracket.span.start stop
      [.link bracket.image (settleRuns s.inner.reverse) target ⟨bracket.span.start, stop⟩] :=
    .link (Nat.le_refl _) (Nat.lt_of_lt_of_le hspan (Nat.le_trans hinner.le hstop))
      (hinner.settleRuns.mono (Nat.le_of_lt hspan) hstop) (.nil (Nat.le_refl _))
  have hclosed := houter.add [_] hlink
  refine ⟨stop, ?_, hhi, Nat.le_trans hresume (Nat.le_max_left _ _)⟩
  rw [close]
  simp only
  split
  · exact hclosed
  · refine hclosed.map fun b => ?_
    split <;> exact ⟨rfl, rfl⟩

omit hs in
/-- Where a label leads to, a link stops no earlier than its closing bracket starts. -/
lemma reference?_bounds {definitions bracket tried target stop resume tried'}
    (h : reference? definitions bracket piece pieces.head? tried =
      (some (target, stop, resume), tried')) :
    piece.span.start ≤ stop ∧ stop ≤ hi ∧ stop ≤ resume := by
  have hpiece := Nat.le_of_lt hp.spans.2.1
  have hhi := hp.spans.2.2.le
  unfold reference? at h
  extract_lets own at h
  -- a bracket that is its own label stops with its sign
  have hown {after : Nat} (hafter : piece.span.stop ≤ after)
      (h : own after = some (target, stop, resume)) :
      piece.span.start ≤ stop ∧ stop ≤ hi ∧ stop ≤ resume := by
    unfold own at h
    split at h
    · cases h
    · split at h
      · obtain ⟨_, -, he⟩ := Option.map_eq_some_iff.1 h
        cases he
        exact ⟨hpiece, hhi, hafter⟩
      · cases h
  split at h
  · exact hown (Nat.le_refl _) (Prod.mk.inj h).1
  · next next hnext =>
    have hmem := List.mem_of_mem_head? hnext
    have hspan := hp.spans.2.2.of_mem (List.mem_map_of_mem hmem)
    split at h
    · exact hown (Nat.le_add_right_of_le hspan.1) (Prod.mk.inj h).1
    · split at h
      · exact hown (Nat.le_refl _) (Prod.mk.inj h).1
      · next key rest hlabel =>
        obtain ⟨_, -, he⟩ := Option.map_eq_some_iff.1 (Prod.mk.inj h).1
        cases he
        have hlabel := ((List.forall_mem_cons.1 hp.here).2 next hmem).sublist
          ((List.take_sublist (next.here.length - rest.length) next.here).map Glyph.span)
        obtain ⟨hlo, hhi⟩ := (hlabel.mono hspan.1 (Nat.le_refl hi)).stop_spanOf
          ⟨Nat.le_refl piece.span.stop, hhi⟩
        exact ⟨Nat.le_trans hpiece hlo, hhi, Nat.le_refl _⟩

/-- What is given up on is text, its brackets included. -/
lemma upTo_giveUp : (s.flatten.addSign [']'] piece.span).UpTo lo piece.span.stop hi := by
  refine upTo_addSign ?_ hp
  rw [flatten]
  split
  · exact hs
  · next bracket brackets hbrackets =>
    rw [hbrackets] at hs
    exact hs.flatten

/-- A closing bracket ends a link or is text. -/
lemma upTo_linkStop {definitions} :
    (s.linkStop definitions piece pieces.head?).UpTo lo piece.span.stop hi := by
  unfold linkStop
  simp only
  split
  · exact upTo_giveUp hs hp
  · next bracket brackets hbrackets =>
    have hopen : Reaches lo piece.span.start (bracket :: brackets) s.inner := hbrackets ▸ hs
    split
    · exact upTo_giveUp hs hp
    · split
      · next target rest _ =>
        have hrest := ((List.forall_mem_cons.1 hp.here).1.sublist
          ((List.drop_sublist 1 piece.here).map Glyph.span)).sublist
            ((List.take_sublist ((piece.here.drop 1).length - rest.length) _).map Glyph.span)
        obtain ⟨hlo, hhi⟩ := hrest.stop_spanOf ⟨Nat.le_of_lt hp.spans.2.1, hp.spans.2.2.le⟩
        exact upTo_close hopen hlo hhi (Nat.le_refl _)
      · split
        · next target stop resume hfound =>
          obtain ⟨hlo, hhi, hresume⟩ := reference?_bounds hp (Prod.ext hfound rfl)
          exact upTo_close hopen hlo hhi hresume
        · exact upTo_giveUp hs hp

/-- A piece becomes parts where it is, or ends a link. -/
lemma upTo_piece {definitions} :
    (s.piece definitions piece pieces).UpTo lo piece.span.stop hi := by
  have hspan : InOrder piece.span.start piece.span.stop [piece.span] :=
    ⟨Nat.le_refl _, hp.spans.2.1, Nat.le_refl _⟩
  rw [Inlines.piece]
  split
  · exact upTo_add hs hp (.ofText hspan)
  · exact upTo_add hs hp (.ofText hspan)
  · exact upTo_add hs hp (.ofLeaf rfl hspan)
  · exact upTo_ticks hs hp
  · exact upTo_angle hs hp
  · exact upTo_enter hs hp
  · exact upTo_enter hs hp
  · exact upTo_linkStop hs hp
  · exact upTo_add hs hp (.ofLeaf rfl hspan)

end Step

variable {mid hi : Nat} {s : Inlines} {piece : Piece} {pieces : List Piece}

/-- What comes after an offset of a piece is a piece before the same pieces. -/
lemma piecesInOrder_trim {offset} (hp : PiecesInOrder mid hi (piece :: pieces))
    (h : offset < piece.span.stop) :
    PiecesInOrder (piece.trim offset).span.start hi (piece.trim offset :: pieces) ∧
      max offset mid ≤ (piece.trim offset).span.start ∧
        (piece.trim offset).span.stop = piece.span.stop := by
  obtain ⟨⟨hmid, hspan, hrest⟩, hhere⟩ := hp
  obtain ⟨hpiece, hpieces⟩ := List.forall_mem_cons.1 hhere
  rw [Piece.trim]
  split
  · next hlate =>
    have hle : offset ≤ hi := Nat.le_of_lt (Nat.lt_of_lt_of_le h hrest.le)
    refine ⟨⟨⟨Nat.le_refl _, h, hrest⟩, List.forall_mem_cons.2 ⟨hpiece.late hle, hpieces⟩⟩, ?_, rfl⟩
    exact Nat.max_le.2 ⟨Nat.le_refl _, Nat.le_trans hmid (Nat.le_of_lt hlate)⟩
  · next hearly =>
    exact ⟨⟨⟨Nat.le_refl _, hspan, hrest⟩, hhere⟩, Nat.max_le.2 ⟨Nat.not_lt.1 hearly, hmid⟩, rfl⟩

/-- Pieces become parts one after the other. -/
lemma upTo_pieces {definitions} (hs : s.UpTo lo mid hi) (hp : PiecesInOrder mid hi pieces) :
    (s.pieces definitions pieces).UpTo lo hi hi := by
  induction pieces generalizing s mid with
  | nil =>
    obtain ⟨stop, hreaches, hhi, -⟩ := hs
    exact ⟨stop, hreaches, hhi, Nat.le_trans hhi (Nat.le_max_right _ _)⟩
  | cons piece pieces ih =>
    have hrest : PiecesInOrder piece.span.stop hi pieces :=
      ⟨hp.spans.2.2, (List.forall_mem_cons.1 hp.here).2⟩
    obtain ⟨stop, hreaches, hhi, hstop⟩ := hs
    rw [Inlines.pieces]
    split
    · next hdone =>
      -- the piece is a part of what is read already
      refine ih ⟨stop, hreaches, hhi, Nat.le_trans hstop ?_⟩ hrest
      have hpiece := Nat.le_of_lt (Nat.lt_of_le_of_lt hp.spans.1 hp.spans.2.1)
      exact Nat.max_le.2 ⟨Nat.le_max_left _ _, Nat.le_trans hpiece (Nat.le_max_right _ _)⟩
    · next hahead =>
      obtain ⟨htrim, hstart, hend⟩ := piecesInOrder_trim hp (Nat.not_le.1 hahead)
      refine ih ?_ hrest
      rw [← hend]
      exact upTo_piece (hreaches.mono (Nat.le_trans hstop hstart)) htrim

/-- What is given up on comes where its brackets are. -/
lemma reaches_flattenAll (h : Reaches lo stop s.brackets s.inner) :
    InlinesInOrder lo stop (s.flattenAll s.brackets).inner.reverse := by
  generalize hbrackets : s.brackets = brackets at h
  induction brackets generalizing s with
  | nil => exact h
  | cons bracket brackets ih =>
    have hflat := h.flatten
    refine ih (s := s.flatten) ?_ ?_
    · rw [flatten, hbrackets]
    · rw [flatten, hbrackets]
      exact hflat

end Inlines

/-- The parts of the text of a paragraph or heading come one after the other where its glyphs do. -/
lemma inlinesInOrder_inlinesOf {lo hi definitions glyphs}
    (h : InOrder lo hi (glyphs.map Glyph.span)) :
    InlinesInOrder lo hi (inlinesOf definitions glyphs) := by
  have hempty : Inlines.empty.UpTo lo lo hi :=
    ⟨lo, .nil (Nat.le_refl lo), h.le, Nat.le_max_right _ _⟩
  obtain ⟨stop, hreaches, hhi, -⟩ :=
    @Inlines.upTo_pieces lo lo hi .empty _ definitions hempty (piecesInOrder_piecesOf h)
  exact ((Inlines.reaches_flattenAll hreaches).mono (Nat.le_refl lo) hhi).settleRuns

end Gamebook.Markup
