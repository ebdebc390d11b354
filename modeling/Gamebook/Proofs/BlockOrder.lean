import Gamebook.Markup.Block
import Gamebook.Proofs.Spans

/-!
# Blocks in order

The blocks of a document come one after the other in its source, whatever they are in. The proof
follows the reading of lines: what is finished lies before the open leaf, and the leaf before the
next line. Main definitions: `BlocksWithin`, `Outline.made`, `Outline.Settled`, `Outline.Reads`.
Main statement: `blocksWithin_outlineOf`.
-/

namespace Gamebook.Markup

mutual

/-- Whether what is in a block lies between two offsets, one part after the other. -/
def Block.Within (lo hi : Nat) : Block → Prop
  | .paragraph text _ => InOrder lo hi (text.map Glyph.span)
  | .heading _ text span =>
    InOrder lo hi [span] ∧ InOrder span.start span.stop (text.map Glyph.span)
  | .fence _ _ span => InOrder lo hi [span]
  | .indented _ => lo ≤ hi
  | .html _ span => InOrder lo hi [span]
  | .quote children _ => BlocksWithin lo hi children
  | .list _ items => BlocksWithin lo hi items
  | .item children _ => BlocksWithin lo hi children

/-- Whether blocks lie between two offsets, one after the other. -/
def BlocksWithin (lo hi : Nat) : List Block → Prop
  | [] => lo ≤ hi
  | block :: blocks => ∃ mid, block.Within lo mid ∧ BlocksWithin mid hi blocks

end

mutual

lemma Block.Within.le {lo hi} : ∀ {block : Block}, block.Within lo hi → lo ≤ hi
  | .paragraph .., h => InOrder.le h
  | .heading .., h => h.1.le
  | .fence .., h => InOrder.le h
  | .indented _, h => h
  | .html .., h => InOrder.le h
  | .quote children _, h => BlocksWithin.le (h : BlocksWithin lo hi children)
  | .list _ items, h => BlocksWithin.le (h : BlocksWithin lo hi items)
  | .item children _, h => BlocksWithin.le (h : BlocksWithin lo hi children)

lemma BlocksWithin.le {lo hi} : ∀ {blocks}, BlocksWithin lo hi blocks → lo ≤ hi
  | [], h => h
  | _ :: _, ⟨_, hblock, hblocks⟩ => Nat.le_trans hblock.le hblocks.le

end

mutual

/-- The offsets may be taken farther apart. -/
lemma Block.Within.mono {lo lo' hi hi'} (hlo : lo' ≤ lo) (hhi : hi ≤ hi') :
    ∀ {block : Block}, block.Within lo hi → block.Within lo' hi'
  | .paragraph .., h => InOrder.mono h hlo hhi
  | .heading .., h => ⟨h.1.mono hlo hhi, h.2⟩
  | .fence .., h => InOrder.mono h hlo hhi
  | .indented _, h => Nat.le_trans hlo (Nat.le_trans h hhi)
  | .html .., h => InOrder.mono h hlo hhi
  | .quote children _, h => BlocksWithin.mono hlo hhi (h : BlocksWithin lo hi children)
  | .list _ items, h => BlocksWithin.mono hlo hhi (h : BlocksWithin lo hi items)
  | .item children _, h => BlocksWithin.mono hlo hhi (h : BlocksWithin lo hi children)

/-- The offsets may be taken farther apart. -/
lemma BlocksWithin.mono {lo lo' hi hi'} (hlo : lo' ≤ lo) (hhi : hi ≤ hi') :
    ∀ {blocks}, BlocksWithin lo hi blocks → BlocksWithin lo' hi' blocks
  | [], h => Nat.le_trans hlo (Nat.le_trans h hhi)
  | _ :: _, ⟨mid, hblock, hblocks⟩ =>
    ⟨mid, hblock.mono hlo (Nat.le_refl mid), hblocks.mono (Nat.le_refl mid) hhi⟩

end

variable {lo mid hi stop stop' : Nat} {block : Block} {blocks blocks' : List Block}

lemma Block.Within.heading {level text start} (h : InOrder lo hi [⟨start, stop⟩])
    (ht : InOrder start stop (text.map Glyph.span)) :
    (Block.heading level text ⟨start, stop⟩).Within lo hi :=
  ⟨h, ht⟩

lemma blocksWithin_append :
    BlocksWithin lo hi (blocks ++ blocks') ↔
      ∃ mid, BlocksWithin lo mid blocks ∧ BlocksWithin mid hi blocks' := by
  induction blocks generalizing lo with
  | nil =>
    constructor
    · exact fun h => ⟨lo, Nat.le_refl lo, h⟩
    · rintro ⟨mid, hmid, h⟩
      exact h.mono hmid (Nat.le_refl hi)
  | cons block blocks ih =>
    simp only [List.cons_append, BlocksWithin, ih]
    constructor
    · rintro ⟨m, hblock, mid, h, h'⟩
      exact ⟨mid, ⟨m, hblock, h⟩, h'⟩
    · rintro ⟨mid, ⟨m, hblock, h⟩, h'⟩
      exact ⟨m, hblock, mid, h, h'⟩

lemma blocksWithin_singleton : BlocksWithin lo hi [block] ↔ block.Within lo hi := by
  constructor
  · rintro ⟨mid, h, hle⟩
    exact h.mono (Nat.le_refl lo) hle
  · exact fun h => ⟨hi, h, Nat.le_refl hi⟩

/-- The blocks that are finished or in open containers, last one first. -/
def Outline.made (o : Outline) : List Block :=
  o.frames.flatMap Frame.blocks ++ o.blocks

/-- Whether all that is read lies before an offset, with no leaf open. -/
structure Outline.Settled (stop : Nat) (o : Outline) : Prop where
  /-- The blocks come one after the other. -/
  made : BlocksWithin 0 stop o.made.reverse
  /-- No leaf is open. -/
  leaf : o.leaf = none

namespace Outline.Settled

variable {o : Outline}

lemma mono (h : o.Settled stop) (hle : stop ≤ stop') : o.Settled stop' :=
  ⟨h.made.mono (Nat.le_refl 0) hle, h.leaf⟩

/-- A document with the same blocks is settled as well. -/
lemma congr {o' : Outline} (h : o.Settled stop) (hmade : o'.made = o.made)
    (hleaf : o'.leaf = o.leaf) :
    o'.Settled stop :=
  ⟨hmade ▸ h.made, hleaf.trans h.leaf⟩

lemma add (h : o.Settled mid) (hb : block.Within mid hi) : (o.add block).Settled hi := by
  have hmade : (o.add block).made = block :: o.made := by
    unfold Outline.add Outline.made
    split
    · next hframes => rw [hframes]; rfl
    · next hframes => rw [hframes]; rfl
  refine ⟨?_, ?_⟩
  · rw [hmade, List.reverse_cons, blocksWithin_append]
    exact ⟨mid, h.made, blocksWithin_singleton.2 hb⟩
  · rw [Outline.add]
    split <;> exact h.leaf

lemma enter {container} (h : o.Settled stop) : (o.enter container).Settled stop :=
  h.congr rfl rfl

/-- A container is closed with the blocks that came last. -/
lemma closeFrame (h : o.Settled stop) : (o.closeFrame stop').Settled stop := by
  unfold Outline.closeFrame
  split
  · exact h
  · next frame frames hframes =>
    have hmade : o.made = frame.blocks ++ ({ o with frames := frames } : Outline).made := by
      rw [Outline.made, hframes]
      exact List.append_assoc _ _ _
    obtain ⟨hblocks, hleaf⟩ := h
    rw [hmade, List.reverse_append, blocksWithin_append] at hblocks
    obtain ⟨mid, houter, hinner⟩ := hblocks
    have hsettled : ({ o with frames := frames } : Outline).Settled mid := ⟨houter, hleaf⟩
    simp only
    split
    · exact hsettled.add hinner
    · exact hsettled.add hinner
    · next sign tight _ =>
      have hlist : (({ o with frames := frames } : Outline).add
          (.list tight frame.blocks.reverse)).Settled stop := hsettled.add hinner
      split
      · exact hlist.congr rfl rfl
      · exact hlist

lemma closeFrames {count} (h : o.Settled stop) : (o.closeFrames stop' count).Settled stop := by
  induction count generalizing o with
  | zero => exact h
  | succ count ih => exact ih h.closeFrame

lemma finishEmptyItem (h : o.Settled stop) : o.finishEmptyItem.Settled stop := by
  unfold Outline.finishEmptyItem
  split
  · exact h
  · simp only
    split
    · exact h.closeFrame.congr rfl rfl
    · exact h.congr rfl rfl

lemma loosen (h : o.Settled stop) : o.loosen.Settled stop := by
  unfold Outline.loosen
  split
  · next hframes =>
    refine h.congr ?_ rfl
    rw [Outline.made, Outline.made, hframes]
    rfl
  · exact h

lemma finishList (h : o.Settled stop) : (o.finishList stop').Settled stop := by
  have hloosened (o : Outline) (h : o.Settled stop) :
      (if o.afterBlank then { o.loosen with afterBlank := false } else o).Settled stop := by
    split
    · exact h.loosen.congr rfl rfl
    · exact h
  unfold Outline.finishList
  refine hloosened _ ?_
  split
  · exact h.finishEmptyItem.closeFrame
  · exact h.finishEmptyItem

lemma enterList {sign} (h : o.Settled stop) : (o.enterList sign).Settled stop :=
  h.congr rfl rfl

lemma continueList {sign} (h : o.Settled stop) : (o.continueList stop' sign).Settled stop := by
  have hempty := h.finishEmptyItem
  unfold Outline.continueList
  simp only
  split
  · next hframes =>
    split
    · refine hempty.congr ?_ rfl
      rw [Outline.made, Outline.made, hframes]
      rfl
    · exact hempty.finishList.enterList
  · exact hempty.finishList.enterList

lemma blankLine (h : o.Settled stop) : o.blankLine.Settled stop := by
  unfold Outline.blankLine
  split
  · exact h
  · next hframes =>
    simp only
    split
    · refine h.congr ?_ rfl
      rw [Outline.made, Outline.made, hframes]
      rfl
    · exact h.congr rfl rfl
  · exact h.congr rfl rfl

end Outline.Settled

/-- Whether what an open leaf holds lies between two offsets. -/
def Leaf.Within (lo hi : Nat) : Leaf → Prop
  | .paragraph start text => lo ≤ start ∧ InOrder start hi (text.map Glyph.span)
  | .fence start .. => lo ≤ start ∧ start < hi
  | .indented .. => True
  | .html start .. => lo ≤ start ∧ start < hi

lemma Leaf.Within.mono {leaf : Leaf} (h : leaf.Within lo stop) (hle : stop ≤ stop') :
    leaf.Within lo stop' := by
  cases leaf with
  | paragraph start text => exact ⟨h.1, h.2.mono (Nat.le_refl _) hle⟩
  | indented start stop => trivial
  | _ => exact ⟨h.1, Nat.lt_of_lt_of_le h.2 hle⟩

/-- Whether all that is read lies before an offset, the open leaf after what is finished. -/
structure Outline.Reads (stop : Nat) (o : Outline) : Prop where
  /-- The blocks come one after the other, and the leaf after them. -/
  made : ∃ mid ≤ stop, BlocksWithin 0 mid o.made.reverse ∧ ∀ leaf ∈ o.leaf, leaf.Within mid stop

/-- The text after definitions is a part of the text. -/
lemma takeDefinitions_sublist {fuel glyphs} : (takeDefinitions fuel glyphs).2.Sublist glyphs := by
  induction fuel generalizing glyphs with
  | zero => exact List.Sublist.refl _
  | succ fuel ih =>
    rw [takeDefinitions]
    split
    · exact List.Sublist.refl _
    · exact ih.trans ((List.dropWhile_sublist _).trans (List.drop_sublist _ _))

namespace Outline

variable {o : Outline} {leaf : Leaf}

lemma Settled.reads (h : o.Settled stop) : o.Reads stop :=
  ⟨stop, Nat.le_refl _, h.made, fun _ hleaf => by rw [h.leaf] at hleaf; cases hleaf⟩

/-- A leaf is open after what is finished. -/
lemma Settled.opened {o' : Outline} (h : o.Settled mid) (hle : mid ≤ stop)
    (hmade : o'.made = o.made)
    (hleaf : o'.leaf = some leaf) (hw : leaf.Within mid stop) : o'.Reads stop := by
  refine ⟨mid, hle, hmade ▸ h.made, fun _ h => ?_⟩
  rw [hleaf] at h
  cases h
  exact hw

lemma Reads.mono (h : o.Reads stop) (hle : stop ≤ stop') : o.Reads stop' := by
  obtain ⟨mid, hmid, hmade, hleaf⟩ := h
  exact ⟨mid, Nat.le_trans hmid hle, hmade, fun leaf h => (hleaf leaf h).mono hle⟩

/-- The open leaf goes on. -/
lemma Reads.goOn {o' : Outline} {leaf' : Leaf} (h : o.Reads stop) (hle : stop ≤ stop')
    (hleaf : o.leaf = some leaf) (hmade : o'.made = o.made) (hleaf' : o'.leaf = some leaf')
    (hw : ∀ {mid}, leaf.Within mid stop → leaf'.Within mid stop') : o'.Reads stop' := by
  obtain ⟨mid, hmid, hblocks, hwithin⟩ := h
  refine ⟨mid, Nat.le_trans hmid hle, hmade ▸ hblocks, fun _ h => ?_⟩
  rw [hleaf'] at h
  cases h
  exact hw (hwithin leaf hleaf)

/-- The open leaf is closed. -/
lemma Reads.closeLeaf (h : o.Reads stop) (hle : stop ≤ stop') :
    (o.closeLeaf stop').Settled stop' := by
  obtain ⟨mid, hmid, hmade, hleaf⟩ := h
  rw [Outline.closeLeaf]
  split
  · next hnone => exact ⟨hmade.mono (Nat.le_refl 0) (Nat.le_trans hmid hle), hnone⟩
  · next leaf hsome =>
    have hwithin := hleaf leaf hsome
    have hsettled : ({ o with leaf := none } : Outline).Settled mid := ⟨hmade, rfl⟩
    simp only
    split
    · next start text =>
      have hrest := (hwithin.2.mono hwithin.1 hle).sublist
        ((@takeDefinitions_sublist text.length text).map Glyph.span)
      generalize takeDefinitions text.length text = taken at hrest ⊢
      obtain ⟨made, _ | ⟨first, rest⟩⟩ := taken
      · exact ⟨hmade.mono (Nat.le_refl 0) (Nat.le_trans hmid hle), rfl⟩
      · exact Settled.add (o := { o with leaf := none, definitions := o.definitions ++ made })
          ⟨hmade, rfl⟩ hrest
    · exact hsettled.add ⟨hwithin.1, Nat.lt_of_lt_of_le hwithin.2 hle, Nat.le_refl _⟩
    · exact hsettled.add (Nat.le_trans hmid hle)
    · exact hsettled.add ⟨hwithin.1, Nat.lt_of_lt_of_le hwithin.2 hle, Nat.le_refl _⟩

end Outline

section Lines

variable {line : Line} {c : Cursor} {o : Outline}

/-- The glyphs of the rest of a line lie between its place and the end of the line. -/
lemma inOrder_glyphsOf (hc : c.Within line.start line.textStop) :
    InOrder c.offset line.stop ((glyphsOf line c).map Glyph.span) := by
  have htext := (@inOrder_glyphsFrom c.offset c.rest).mono (Nat.le_refl _) hc.upper
  rw [glyphsOf]
  split
  · rw [List.append_nil]
    exact htext.mono (Nat.le_refl _) Line.textStop_le_stop
  · next hending =>
    rw [List.map_append, inOrder_append]
    refine ⟨line.textStop, htext, Nat.le_refl _, Nat.lt_add_of_pos_right ?_, Nat.le_refl _⟩
    exact List.length_pos_iff.2 fun h => hending (by rw [h]; rfl)

/-- The end of a heading's text is left out. -/
lemma trimHeading_sublist {cs} : (trimHeading cs).Sublist cs := by
  have hback {ds : List Char} (h : ds.Sublist cs.reverse) : ds.reverse.Sublist cs := by
    have h := List.reverse_sublist.2 h
    rwa [List.reverse_reverse] at h
  have htext := List.dropWhile_sublist (· == ' ') (l := cs.reverse)
  rw [trimHeading]
  split
  · exact List.nil_sublist _
  · next c ds hdrop =>
    have hsigns := (List.dropWhile_sublist (· == '#')).trans htext
    rw [hdrop] at hsigns
    split
    · exact hback ((List.dropWhile_sublist _).trans hsigns)
    · exact hback htext

/-- The text of a heading lies in its line, at its end but for what is left out. -/
lemma inOrder_heading {text} (hc : c.Within line.start line.textStop) (ht : text.Sublist c.rest) :
    InOrder c.offset line.stop
      ((glyphsFrom (line.textStop - Text.byteSize text) (trimHeading text)).map Glyph.span) := by
  have hsize := Text.byteSize_le_of_sublist ht
  have htrim := Text.byteSize_le_of_sublist (@trimHeading_sublist text)
  have hupper := hc.upper
  have hstop := @Line.textStop_le_stop line
  exact inOrder_glyphsFrom.mono (by omega) (by omega)

/-- Joining a line does not move the glyphs before it. -/
lemma map_span_joinLine {text dropped more} :
    (joinLine text dropped more).map Glyph.span = text.map Glyph.span ++ more.map Glyph.span := by
  rw [joinLine]
  split
  · next hnone => rw [List.getLast?_eq_none_iff.1 hnone]; rfl
  · next last hlast =>
    obtain ⟨before, rfl⟩ := List.getLast?_eq_some_iff.1 hlast
    simp

namespace Outline

/-- The leaf at a place of a line is opened after what is finished. -/
lemma Settled.startLeaf (h : o.Settled line.start) (hl : line.start < line.stop)
    (hc : c.Within line.start line.textStop) : (o.startLeaf line c).Reads line.stop := by
  have hle := Nat.le_of_lt hl
  have hsettled := @Settled.finishList line.start line.start o h
  have hinner := hc.skipUpTo (n := 4)
  unfold Outline.startLeaf
  simp only
  generalize o.finishList line.start = o at hsettled
  generalize c.skipUpTo 4 = skipped at hinner
  obtain ⟨indent, inner⟩ := skipped
  -- what is found in a text that is not empty starts before the end of the line
  have hlt {α : Type} {found : α} (find? : List Char → Option α) (hnil : find? [] = none)
      (hfound : find? inner.rest = some found) : inner.offset < line.stop := by
    refine Nat.lt_of_lt_of_le (hinner.lt fun hrest => ?_) Line.textStop_le_stop
    rw [hrest, hnil] at hfound
    cases hfound
  simp only at hinner ⊢
  split
  · exact hsettled.opened hle rfl rfl trivial
  · split
    · next ending hhtml =>
      have hopen : ({ o with leaf := some (.html inner.offset ending (contentOf line inner)) } :
          Outline).Reads line.stop :=
        hsettled.opened hle rfl rfl ⟨hinner.lower, hlt htmlStart? rfl hhtml⟩
      split
      · exact hopen
      · split
        · exact (hopen.closeLeaf (Nat.le_refl _)).reads
        · exact hopen
    · split
      · exact (hsettled.mono hle).reads
      · split
        · next level hlevel =>
          have hspan : InOrder line.start line.stop [⟨inner.offset, line.stop⟩] :=
            ⟨hinner.lower, hlt headingLevel? rfl hlevel, Nat.le_refl _⟩
          exact (hsettled.add (.heading hspan (inOrder_heading hinner
            ((List.dropWhile_sublist _).trans (List.drop_sublist _ _))))).reads
        · split
          · next sign size hfence =>
            exact hsettled.opened hle rfl rfl ⟨hinner.lower, hlt openingFence? rfl hfence⟩
          · exact hsettled.opened hle rfl rfl ⟨hinner.lower, inOrder_glyphsOf hinner⟩

/-- Containers are opened after what is finished, and the leaf in them. -/
lemma Settled.startBlocks {fuel} (h : o.Settled line.start) (hl : line.start < line.stop)
    (hc : c.Within line.start line.textStop) : (o.startBlocks line fuel c).Reads line.stop := by
  have hle := Nat.le_of_lt hl
  induction fuel generalizing o c with
  | zero => exact (h.mono hle).reads
  | succ fuel ih =>
    -- without another container the rest of the line is blank or starts a leaf
    have hfinish : (if c.isBlank then o.blankLine else o.startLeaf line c).Reads line.stop := by
      split
      · exact (h.blankLine.mono hle).reads
      · exact h.startLeaf hl hc
    have hinner := hc.skipUpTo (n := 4)
    rw [Outline.startBlocks]
    generalize c.skipUpTo 4 = skipped at hinner
    obtain ⟨indent, inner⟩ := skipped
    simp only at hinner ⊢
    split
    · exact hfinish
    · split
      · next marker after hmarker =>
        have hitem : ((o.continueList (inner.offset - indent) marker.sign).enter
            (.item (inner.offset - indent) marker.indent)).Settled line.start :=
          (Settled.continueList h).enter
        split
        · refine Settled.reads (Settled.mono (hitem.congr ?_ ?_) hle) <;> rfl
        · exact ih hitem (hinner.listMarker? hmarker)
      · split
        · next after hmarker =>
          exact ih h.finishList.enter (hinner.quoteMarker? hmarker)
        · exact hfinish

/-- A line that no leaf goes on with closes the open leaf and what it does not go on with. -/
lemma Reads.startLine {count} (h : o.Reads line.start) (hl : line.start < line.stop)
    (hc : c.Within line.start line.textStop) : (o.startLine line count c).Reads line.stop :=
  (h.closeLeaf (Nat.le_refl _)).closeFrames.startBlocks hl hc

/-- A paragraph becomes a heading, with the line that is under it. -/
lemma Reads.underline? {start level text o'} (h : o.Reads line.start) (hl : line.start < line.stop)
    (hleaf : o.leaf = some (.paragraph start text))
    (ho : o.underline? line level start text = some o') : o'.Reads line.stop := by
  obtain ⟨mid, -, hmade, hwithin⟩ := h
  obtain ⟨hstart, htext⟩ := hwithin _ hleaf
  rw [Outline.underline?] at ho
  have hrest := htext.sublist ((@takeDefinitions_sublist text.length text).map Glyph.span)
  generalize takeDefinitions text.length text = taken at hrest ho
  obtain ⟨made, _ | ⟨first, rest⟩⟩ := taken
  · cases ho
  · cases ho
    have hfirst := Nat.lt_trans (Nat.lt_of_lt_of_le hrest.2.1 hrest.2.2.le) hl
    have hstop := Nat.le_of_lt hl
    refine Settled.reads (Settled.add ⟨hmade, rfl⟩ (.heading ?_ ?_))
    · split
      · exact ⟨hstart, Nat.lt_of_le_of_lt hrest.1 hfirst, Nat.le_refl _⟩
      · rw [start_spanOf]
        exact ⟨Nat.le_trans hstart hrest.1, hfirst, Nat.le_refl _⟩
    · split
      · exact hrest.mono (Nat.le_refl _) hstop
      · rw [start_spanOf]
        exact ⟨Nat.le_refl _, hrest.2.1, hrest.2.2.mono (Nat.le_refl _) hstop⟩

/-- A line after a paragraph goes on with it, or closes it. -/
lemma Reads.paragraphLine {start text count} (h : o.Reads line.start) (hl : line.start < line.stop)
    (hc : c.Within line.start line.textStop) (hleaf : o.leaf = some (.paragraph start text)) :
    (o.paragraphLine line start text count c).Reads line.stop := by
  have hline {count} : (o.startLine line count c).Reads line.stop := h.startLine hl hc
  have hjoin (dropped : List Char) :
      ({ o with leaf := some (.paragraph start (joinLine text dropped (glyphsOf line c))) } :
        Outline).Reads line.stop := by
    refine h.goOn (Nat.le_of_lt hl) hleaf rfl rfl fun hwithin => ⟨hwithin.1, ?_⟩
    rw [map_span_joinLine, inOrder_append]
    exact ⟨line.start, hwithin.2, (inOrder_glyphsOf hc).mono hc.lower (Nat.le_refl _)⟩
  unfold Outline.paragraphLine
  simp only
  split
  · exact hline
  · split
    · exact hjoin _
    · split
      · split
        · exact hline
        · exact hjoin _
      · split
        · split
          · next hunder => exact h.underline? hl hleaf hunder
          · exact hline
        · split
          · exact hline
          · split
            · exact hline
            · exact hjoin _

/-- A container that a line goes on with takes a part of the line. -/
lemma within_continue? {container : Container} {lo hi : Nat} {d : Cursor} (hc : c.Within lo hi)
    (hd : container.continue? c = some d) : d.Within lo hi := by
  cases container with
  | quote start => exact hc.skip.quoteMarker? hd
  | list sign tight =>
    cases hd
    exact hc
  | item start indent =>
    rw [Container.continue?] at hd
    simp only at hd
    split at hd
    · cases hd
      exact hc.skip
    · cases hd

lemma within_continued {containers} {lo hi : Nat} (hc : c.Within lo hi) :
    (continued c containers).2.Within lo hi := by
  induction containers generalizing c with
  | nil => exact hc
  | cons container containers ih =>
    rw [continued]
    split
    · exact hc
    · next d hd => exact ih (within_continue? hc hd)

/-- A line is read after what is read. -/
lemma Reads.read (h : o.Reads line.start) (hl : line.start < line.stop) :
    (o.read line).Reads line.stop := by
  have hle := Nat.le_of_lt hl
  have htext : line.start ≤ line.textStop := Nat.le_add_right _ _
  have hc := @within_continued (.ofLine line) (o.frames.reverse.map (·.container)) _ _ .ofLine
  unfold Outline.read
  generalize continued (.ofLine line) (o.frames.reverse.map (·.container)) = taken at hc
  obtain ⟨count, c⟩ := taken
  have hline : (o.startLine line count c).Reads line.stop := h.startLine hl hc
  -- the open leaf decides: it takes the line in, ends with it, or leaves it to new blocks
  simp only
  split
  · exact hline
  · next hleaf => exact h.paragraphLine hl hc hleaf
  · next start indent sign size info content hleaf =>
    split
    · split
      · exact ((h.closeLeaf htext).mono Line.textStop_le_stop).reads
      · exact h.goOn hle hleaf rfl rfl fun hw => ⟨hw.1, Nat.lt_trans hw.2 hl⟩
    · exact hline
  · next start stop hleaf =>
    split
    · exact h.goOn hle hleaf rfl rfl fun _ => trivial
    · exact hline
  · next start piece content hleaf =>
    split
    · have hopen : ({ o with
          leaf := some (.html start (.through piece) (content ++ contentOf line c)) } :
            Outline).Reads line.stop :=
        h.goOn hle hleaf rfl rfl fun hw => ⟨hw.1, Nat.lt_trans hw.2 hl⟩
      split
      · exact (hopen.closeLeaf (Nat.le_refl _)).reads
      · exact hopen
    · exact hline
  · next start content hleaf =>
    split
    · exact h.goOn hle hleaf rfl rfl fun hw => ⟨hw.1, Nat.lt_trans hw.2 hl⟩
    · exact hline

/-- Lines are read one after the other. -/
lemma Reads.foldl_read {lines : List Line} (h : o.Reads lo)
    (hl : InOrder lo hi (lines.map Line.span)) : (lines.foldl Outline.read o).Reads hi := by
  induction lines generalizing o lo with
  | nil => exact h.mono hl
  | cons line lines ih => exact ih ((h.mono hl.1).read hl.2.1) hl.2.2

end Outline

end Lines

/-- The blocks of a source lie one after the other in it. -/
lemma blocksWithin_outlineOf {source : List Char} :
    BlocksWithin 0 (Text.byteSize source) (outlineOf source).1 := by
  have hempty : Outline.empty.Settled 0 := ⟨Nat.le_refl 0, rfl⟩
  have hread := hempty.reads.foldl_read (@inOrder_linesOf source)
  have hfinish : (Outline.finish (Text.byteSize source)
      ((linesOf source).foldl Outline.read .empty)).Settled (Text.byteSize source) :=
    (hread.closeLeaf (Nat.le_refl _)).closeFrames
  have hmade := hfinish.made
  rw [Outline.made, List.reverse_append, blocksWithin_append] at hmade
  obtain ⟨mid, hblocks, hrest⟩ := hmade
  exact hblocks.mono (Nat.le_refl 0) hrest.le

end Gamebook.Markup
