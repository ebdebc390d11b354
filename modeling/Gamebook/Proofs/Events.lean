import Gamebook.Proofs.LexemeOrder
import Gamebook.Markup.Draft

/-!
# Events

A document as its reader reports it, one event after the other: the starts and ends of paragraphs,
items and quotes, the parts of their text, and the other blocks. Reading the events one by one gives
the lexemes of the document. What is read only grows: an event adds lexemes or goes on with the last
text. Main definitions: `Event`, `eventsOf`, `Event.apply`, `Extends`. Main statements:
`lexemesOf_eq_foldl`, `Lexemes.Outside.apply`.
-/

namespace Gamebook.Markup

/-- What may stand around text. -/
inductive Enclosure where
  | paragraph
  | item
  | quote
  deriving DecidableEq

/-- What the reader of a document reports. A link or image is one event with all that is in it, and
so is a heading. -/
inductive Event where
  /-- The start of an enclosure. -/
  | start (kind : Enclosure)
  /-- The end of an enclosure, and whether another one of its kind is around it. -/
  | stop (kind : Enclosure) (span : Span) (nested : Bool)
  /-- A part of the text of a paragraph. -/
  | inline (part : Inline)
  /-- A heading with its level. -/
  | heading (level : Nat) (text : List Glyph) (span : Span)
  /-- A fenced block of code with the words after its opening fence. -/
  | fence (info content : List Char) (span : Span)
  /-- A block of code that is marked by its indentation. -/
  | indented (span : Span)
  /-- A block of HTML. -/
  | html (content : List Char) (span : Span)

mutual

/-- The events of a block in quotes and items. The reader does not report the paragraphs of a tight
list, only their text. -/
def Block.events (definitions : List Definition) (tight quoted listed : Bool) : Block → List Event
  | .paragraph text span =>
    let parts := (inlinesOf definitions text).map .inline
    if tight then parts else .start .paragraph :: (parts ++ [.stop .paragraph span false])
  | .quote children span =>
    .start .quote ::
      (blocksEvents definitions false true listed children ++ [.stop .quote span quoted])
  | .list tight items => blocksEvents definitions tight quoted listed items
  | .item children span =>
    .start .item ::
      (blocksEvents definitions tight quoted true children ++ [.stop .item span listed])
  | .heading level text span => [.heading level text span]
  | .fence info content span => [.fence info content span]
  | .indented span => [.indented span]
  | .html content span => [.html content span]

/-- The events of blocks. -/
def blocksEvents (definitions : List Definition) (tight quoted listed : Bool) :
    List Block → List Event
  | [] => []
  | block :: blocks =>
    block.events definitions tight quoted listed ++
      blocksEvents definitions tight quoted listed blocks

end

/-- The events of a document. -/
def eventsOf (source : List Char) : List Event :=
  let (blocks, definitions) := outlineOf source
  blocksEvents definitions false false false blocks

/-- Reads an event. -/
def Event.apply (definitions : List Definition) (s : Lexemes) : Event → Lexemes
  | .start .paragraph => s
  | .start .item => { s with listed := true }
  | .start .quote => { s with quoted := true }
  | .stop .paragraph span _ => s.pushBreak span
  | .stop .item span nested => { s.pushBreak span with listed := nested }
  | .stop .quote span nested => { s.pushBreak span with quoted := nested }
  | .inline part => s.inline part
  | .heading level text span => s.block definitions false (.heading level text span)
  | .fence info content span => s.block definitions false (.fence info content span)
  | .indented span => s.pushBreak span
  | .html content span => s.html content span

/-- Whether an event adds no lexeme after text: HTML does if it is a comment of the story. -/
def Event.isMute : Event → Bool
  | .start _ => true
  | .inline (.text ..) => true
  | .inline (.run ..) => true
  | .inline (.html chars _) => !isComment chars
  | .html content _ => !isComment content
  | _ => false

def Event.isStart : Event → Bool
  | .start _ => true
  | _ => false

def Event.isStop : Event → Bool
  | .stop .. => true
  | _ => false

/-- Whether lexemes are others with some before them or with more text at the end of the first one;
both have the last one first. -/
inductive Extends : List Lexeme → List Lexeme → Prop where
  /-- Lexemes are added. -/
  | more {done} (made : List Lexeme) : Extends done (made ++ done)
  /-- A text goes on, and lexemes are added. -/
  | text {chars more span span' quoted listed done} (made : List Lexeme) :
    Extends (⟨.text chars, span, quoted, listed⟩ :: done)
      (made ++ ⟨.text (chars ++ more), span', quoted, listed⟩ :: done)

namespace Extends

variable {done done' done'' : List Lexeme}

lemma refl : Extends done done :=
  .more []

lemma prepend (h : Extends done done') (made : List Lexeme) : Extends done (made ++ done') := by
  cases h with
  | more made' =>
    rw [← List.append_assoc]
    exact .more _
  | text made' =>
    rw [← List.append_assoc]
    exact .text _

lemma trans (h : Extends done done') (h' : Extends done' done'') : Extends done done'' := by
  cases h' with
  | more made => exact h.prepend made
  | @text chars more span span' quoted listed rest made =>
    generalize e : ⟨.text chars, span, quoted, listed⟩ :: rest = middle at h
    -- the text that goes on is one of the lexemes before, or is added
    cases h with
    | more made' =>
      cases made' with
      | nil =>
        cases e
        exact .text made
      | cons l made' =>
        cases e
        rw [List.append_cons]
        exact (Extends.more made').prepend _
    | text made' =>
      cases made' with
      | nil =>
        cases e
        rw [List.append_assoc]
        exact .text made
      | cons l made' =>
        cases e
        rw [List.append_cons]
        exact (Extends.text made').prepend _

lemma length_le (h : Extends done done') : done.length ≤ done'.length := by
  cases h <;> simp

/-- A text stays where it is, if maybe with more text at its end. -/
lemma of_text {chars span quoted listed}
    (h : Extends (⟨.text chars, span, quoted, listed⟩ :: done) done') :
    ∃ made more span', done' = made ++ ⟨.text (chars ++ more), span', quoted, listed⟩ :: done := by
  cases h with
  | more made => exact ⟨made, [], span, by rw [List.append_nil]⟩
  | text made => exact ⟨made, _, _, rfl⟩

/-- A break stays as it is. -/
lemma of_break {l : Lexeme} (h : Extends (l :: done) done') (hl : l.token = .break) :
    ∃ made, done' = made ++ l :: done := by
  cases h with
  | more made => exact ⟨made, rfl⟩
  | text made => cases hl

end Extends

namespace Lexemes

/-- The link or image that is being read. -/
def opened (s : Lexemes) (image : Bool) : Option LinkText :=
  if image then s.image else s.link

/--
What a part of running text does wherever it stands: it adds to what is read, opens nothing that
stays open, and closes nothing without a lexeme for it.
-/
structure Onward (s s' : Lexemes) : Prop where
  /-- What is read is added to. -/
  extends_done : Extends s.done s'.done
  /-- The place is in a quote if it was. -/
  quoted : s'.quoted = s.quoted
  /-- The place is in an item if it was. -/
  listed : s'.listed = s.listed
  /-- The heading stays open, or there is none. -/
  heading : s'.heading.isSome = s.heading.isSome
  /-- A link or image that is open was open before. -/
  opened : ∀ image, (s'.opened image).isSome = true → (s.opened image).isSome = true
  /-- Without another lexeme what was open stays open. -/
  silent : s'.done.length = s.done.length →
    ∀ image, (s'.opened image).isSome = (s.opened image).isSome

namespace Onward

variable {s s' s'' : Lexemes} {span : Span} {token : Token} {chars : List Char}

lemma trans (h : Onward s s') (h' : Onward s' s'') : Onward s s'' := by
  refine ⟨h.extends_done.trans h'.extends_done, h'.quoted.trans h.quoted, h'.listed.trans h.listed,
    h'.heading.trans h.heading, fun image hs => h.opened image (h'.opened image hs), ?_⟩
  intro hlength image
  have hle := h.extends_done.length_le
  have hle' := h'.extends_done.length_le
  exact (h'.silent (by omega) image).trans (h.silent (by omega) image)

/-- What adds to the lexemes and keeps the same open. -/
lemma of_extends (hdone : Extends s.done s'.done) (hquoted : s'.quoted = s.quoted)
    (hlisted : s'.listed = s.listed) (hheading : s'.heading.isSome = s.heading.isSome)
    (hopened : ∀ image, (s'.opened image).isSome = (s.opened image).isSome) : Onward s s' :=
  ⟨hdone, hquoted, hlisted, hheading, fun image hs => hopened image ▸ hs, fun _ => hopened⟩

lemma refl : Onward s s :=
  of_extends .refl rfl rfl rfl fun _ => rfl

/-- Where no heading is open none is opened. -/
lemma heading_none (h : Onward s s') (hs : s.heading = none) : s'.heading = none := by
  rw [← Option.isNone_iff_eq_none, ← Option.isSome_eq_false_iff, h.heading, hs]
  rfl

/-- Where no link or image is open none is opened. -/
lemma opened_none (h : Onward s s') {image} (hs : s.opened image = none) :
    s'.opened image = none := by
  rw [← Option.isNone_iff_eq_none, ← Option.isSome_eq_false_iff, ← Bool.not_eq_true]
  intro hopen
  have := h.opened image hopen
  rw [hs] at this
  cases this

lemma push : Onward s (s.push token span) :=
  of_extends (.more [_]) rfl rfl rfl fun _ => rfl

lemma text : Onward s (s.text chars span) := by
  unfold Lexemes.text
  split
  · next himage =>
    refine of_extends .refl rfl rfl rfl fun image => ?_
    cases image
    · rfl
    · exact (congrArg Option.isSome himage).symm
  · next hlink =>
    refine of_extends .refl rfl rfl rfl fun image => ?_
    cases image
    · exact (congrArg Option.isSome hlink).symm
    · rfl
  · next hheading =>
    exact of_extends .refl rfl rfl (congrArg Option.isSome hheading).symm fun _ => rfl
  · next hdone =>
    refine of_extends ?_ rfl rfl rfl fun _ => rfl
    rw [hdone]
    exact .text []
  · exact push

lemma html : Onward s (s.html chars span) := by
  unfold Lexemes.html
  split
  · next hheading =>
    split
    · split
      · exact of_extends .refl rfl rfl (congrArg Option.isSome hheading).symm fun _ => rfl
      · exact refl
    · exact refl
  · split
    · exact push
    · exact refl

/-- Starting a link or image opens it and nothing else. -/
lemma opened_enter {image image' target start} :
    ((s.enter image target start).opened image').isSome =
      (image == image' || (s.opened image').isSome) := by
  cases image <;> cases image' <;> rfl

/-- Ending a link or image closes it and nothing else. -/
lemma opened_leave {image image' stop} :
    ((s.leave image stop).opened image').isSome =
      (image != image' && (s.opened image').isSome) := by
  cases image with
  | false =>
    cases hlink : s.link <;> cases image' <;> simp [leave, Lexemes.opened, Lexemes.push, hlink]
  | true =>
    cases himage : s.image <;> cases image' <;> simp [leave, Lexemes.opened, Lexemes.push, himage]

/-- Ending a link or image adds it if it is open. -/
lemma done_leave {image stop} :
    ∃ made, (s.leave image stop).done = made ++ s.done ∧
      ((s.opened image).isSome = true → made ≠ []) := by
  cases image with
  | false =>
    rw [leave, if_neg Bool.false_ne_true]
    split
    · exact ⟨[_], rfl, fun _ => List.cons_ne_nil _ _⟩
    · next hlink =>
      refine ⟨[], rfl, fun hs => ?_⟩
      rw [show s.opened false = none from hlink] at hs
      cases hs
  | true =>
    rw [leave, if_pos rfl]
    split
    · exact ⟨[_], rfl, fun _ => List.cons_ne_nil _ _⟩
    · next himage =>
      refine ⟨[], rfl, fun hs => ?_⟩
      rw [show s.opened true = none from himage] at hs
      cases hs

/-- Ending a link or image changes no flag and no heading. -/
lemma leave_keeps {image stop} :
    (s.leave image stop).quoted = s.quoted ∧ (s.leave image stop).listed = s.listed ∧
      (s.leave image stop).heading = s.heading := by
  unfold leave
  split
  · split <;> exact ⟨rfl, rfl, rfl⟩
  · split <;> exact ⟨rfl, rfl, rfl⟩

/-- A link or image adds a lexeme, be it only for an image in it. -/
lemma link {image children target} (h : ∀ s : Lexemes, Onward s (s.inlines children)) :
    Onward s (s.inline (.link image children target span)) ∧
      s.done.length < (s.inline (.link image children target span)).done.length := by
  have hinner := h (s.enter image target span.start)
  have hdone : (s.enter image target span.start).done = s.done := by cases image <;> rfl
  have hflags : (s.enter image target span.start).quoted = s.quoted ∧
      (s.enter image target span.start).listed = s.listed ∧
        (s.enter image target span.start).heading = s.heading := by
    cases image <;> exact ⟨rfl, rfl, rfl⟩
  have hopened := fun image' => @opened_enter s image image' target span.start
  rw [Lexemes.inline]
  generalize (s.enter image target span.start).inlines children = s' at hinner
  obtain ⟨hquoted, hlisted, hheading⟩ := @leave_keeps s' image span.stop
  obtain ⟨made, hmade, hne⟩ := @done_leave s' image span.stop
  have hle := hinner.extends_done.length_le
  rw [hdone] at hle
  -- if the text in it adds no lexeme, the link or image is still open at its end
  have hlt : s.done.length < (s'.leave image span.stop).done.length := by
    rw [hmade, List.length_append]
    by_cases hlength : s'.done.length = s.done.length
    · have hopen := hinner.silent (by rw [hdone, hlength]) image
      rw [hopened, beq_self_eq_true, Bool.true_or] at hopen
      have := List.length_pos_of_ne_nil (hne hopen)
      omega
    · omega
  refine ⟨⟨?_, ?_, ?_, ?_, fun image' hs => ?_, fun hlength => by omega⟩, hlt⟩
  · rw [hmade, ← hdone]
    exact hinner.extends_done.trans (.more made)
  · rw [hquoted, hinner.quoted, hflags.1]
  · rw [hlisted, hinner.listed, hflags.2.1]
  · rw [hheading, hinner.heading, hflags.2.2]
  · rw [opened_leave, Bool.and_eq_true] at hs
    have hopen := hinner.opened image' hs.2
    rwa [hopened, bne_iff_ne.1 hs.1 |> beq_eq_false_iff_ne.2, Bool.false_or] at hopen

mutual

lemma inline : ∀ {s : Lexemes} {part : Inline}, Onward s (s.inline part)
  | _, .text .. => text
  | _, .run .. => text
  | s, .lineBreak span => by
    rw [Lexemes.inline]
    split
    · exact text
    · exact push
  | s, .code chars span => by
    rw [Lexemes.inline]
    split
    · exact text
    · exact push
  | _, .html .. => html
  | _, .link _ children _ _ => (link fun _ => @inlines _ children).1

lemma inlines : ∀ {s : Lexemes} {parts : List Inline}, Onward s (s.inlines parts)
  | _, [] => refl
  | _, part :: parts => (@inline _ part).trans (@inlines _ parts)

end

end Onward

section Flags

variable {definitions : List Definition} {tight : Bool} {s : Lexemes} {span : Span}

lemma flags_pushBreak :
    (s.pushBreak span).quoted = s.quoted ∧ (s.pushBreak span).listed = s.listed := by
  unfold pushBreak
  split <;> exact ⟨rfl, rfl⟩

lemma flags_html {content} :
    (s.html content span).quoted = s.quoted ∧ (s.html content span).listed = s.listed :=
  ⟨Onward.html.quoted, Onward.html.listed⟩

lemma flags_fence {info content} :
    (s.block definitions tight (.fence info content span)).quoted = s.quoted ∧
      (s.block definitions tight (.fence info content span)).listed = s.listed := by
  rw [Lexemes.block]
  refine ⟨flags_pushBreak.1.trans ?_, flags_pushBreak.2.trans ?_⟩
  · split <;> rfl
  · split <;> rfl

lemma flags_heading {level text} :
    (s.block definitions tight (.heading level text span)).quoted = s.quoted ∧
      (s.block definitions tight (.heading level text span)).listed = s.listed := by
  have hinner : Onward { s with heading := some ⟨[], none⟩ }
      (inlines { s with heading := some ⟨[], none⟩ } (inlinesOf definitions text)) := .inlines
  rw [Lexemes.block]
  generalize inlines { s with heading := some ⟨[], none⟩ } (inlinesOf definitions text) = s'
    at hinner
  split <;> exact ⟨hinner.quoted, hinner.listed⟩

end Flags

/-- Reading the parts of a text is reading them one by one. -/
lemma foldl_inline {definitions : List Definition} {s : Lexemes} {parts : List Inline} :
    (parts.map .inline).foldl (Event.apply definitions) s = s.inlines parts := by
  induction parts generalizing s with
  | nil => rw [Lexemes.inlines]; rfl
  | cons part parts ih =>
    rw [Lexemes.inlines, List.map_cons, List.foldl_cons, ih]
    rfl

/-- What reading a block or blocks as its events means: the same lexemes, with the flags as
before. -/
def ReadsAs (definitions : List Definition) (s s' : Lexemes) (events : List Event) : Prop :=
  s' = events.foldl (Event.apply definitions) s ∧ s'.quoted = s.quoted ∧ s'.listed = s.listed

mutual

/-- Reading a block is reading its events. -/
lemma block_readsAs {definitions : List Definition} {tight : Bool} {s : Lexemes} :
    ∀ {block : Block}, ReadsAs definitions s (s.block definitions tight block)
      (block.events definitions tight s.quoted s.listed)
  | .paragraph text span => by
    have hflags : Onward s (s.inlines (inlinesOf definitions text)) := .inlines
    rw [Lexemes.block, Block.events]
    cases tight with
    | true => exact ⟨foldl_inline.symm, hflags.quoted, hflags.listed⟩
    | false =>
      refine ⟨?_, flags_pushBreak.1.trans hflags.quoted, flags_pushBreak.2.trans hflags.listed⟩
      simp only [Bool.false_eq_true, if_false, List.foldl_cons, List.foldl_append, List.foldl_nil]
      rw [show Event.apply definitions s (.start .paragraph) = s from rfl, foldl_inline]
      rfl
  | .heading level text span => by
    refine ⟨?_, flags_heading.1, flags_heading.2⟩
    rw [Block.events, List.foldl_cons, List.foldl_nil, Event.apply, Lexemes.block, Lexemes.block]
  | .fence info content span => by
    refine ⟨?_, flags_fence.1, flags_fence.2⟩
    rw [Block.events, List.foldl_cons, List.foldl_nil, Event.apply, Lexemes.block, Lexemes.block]
  | .indented span => by
    rw [Block.events, Lexemes.block]
    exact ⟨rfl, flags_pushBreak⟩
  | .html content span => by
    rw [Block.events, Lexemes.block]
    exact ⟨rfl, flags_html⟩
  | .quote children span => by
    obtain ⟨hread, -, hlisted⟩ :=
      @blocks_readsAs definitions false { s with quoted := true } children
    rw [Lexemes.block, Block.events]
    refine ⟨?_, rfl, flags_pushBreak.2.trans hlisted⟩
    rw [List.foldl_cons, List.foldl_append, List.foldl_cons, List.foldl_nil]
    exact congrArg (fun s' : Lexemes => { s'.pushBreak span with quoted := s.quoted }) hread
  | .list tight items => by
    rw [Lexemes.block, Block.events]
    exact blocks_readsAs
  | .item children span => by
    obtain ⟨hread, hquoted, -⟩ :=
      @blocks_readsAs definitions tight { s with listed := true } children
    rw [Lexemes.block, Block.events]
    refine ⟨?_, flags_pushBreak.1.trans hquoted, rfl⟩
    rw [List.foldl_cons, List.foldl_append, List.foldl_cons, List.foldl_nil]
    exact congrArg (fun s' : Lexemes => { s'.pushBreak span with listed := s.listed }) hread

/-- Reading blocks is reading their events. -/
lemma blocks_readsAs {definitions : List Definition} {tight : Bool} {s : Lexemes} :
    ∀ {blocks : List Block}, ReadsAs definitions s (s.blocks definitions tight blocks)
      (blocksEvents definitions tight s.quoted s.listed blocks)
  | [] => by
    rw [Lexemes.blocks, blocksEvents]
    exact ⟨rfl, rfl, rfl⟩
  | block :: blocks => by
    obtain ⟨hread, hquoted, hlisted⟩ := @block_readsAs definitions tight s block
    obtain ⟨hreads, hquoted', hlisted'⟩ :=
      @blocks_readsAs definitions tight (s.block definitions tight block) blocks
    rw [Lexemes.blocks, blocksEvents]
    refine ⟨?_, hquoted'.trans hquoted, hlisted'.trans hlisted⟩
    rw [List.foldl_append, ← hread, hreads, hquoted, hlisted]

end

end Lexemes

/-- The lexemes of a document come of its events, read one after the other. -/
theorem lexemesOf_eq_foldl {source : List Char} :
    lexemesOf source =
      ((eventsOf source).foldl (Event.apply (outlineOf source).2) .empty).done.reverse :=
  congrArg (fun s : Lexemes => s.done.reverse) Lexemes.blocks_readsAs.1

namespace Lexemes

/-- What is read of a document between two of its events: no heading, link or image is open. -/
structure Outside (s : Lexemes) : Prop where
  /-- No heading is open. -/
  heading : s.heading = none
  /-- No link or image is open. -/
  opened : ∀ image, s.opened image = none

namespace Outside

variable {s s' : Lexemes} {span : Span} {definitions : List Definition}

/-- What leaves nothing open that was not open leaves nothing open. -/
lemma onward (h : s.Outside) (ho : Onward s s') : s'.Outside :=
  ⟨ho.heading_none h.heading, fun image => ho.opened_none (h.opened image)⟩

lemma isInside (h : s.Outside) : s.isInside = false :=
  isInside_eq_false.2 ⟨h.heading, h.opened false, h.opened true⟩

lemma pushBreak (h : s.Outside) : (s.pushBreak span).Outside := by
  unfold Lexemes.pushBreak
  split
  · exact h
  · exact ⟨h.heading, h.opened⟩

end Outside

section Reading

variable {s : Lexemes} {span : Span} {definitions : List Definition} {e : Event}
  {events : List Event}

/-- There is a break at the end of a block. -/
lemma exists_break : ∃ l rest, (s.pushBreak span).done = l :: rest ∧ l.token = .break ∧
    Extends s.done (l :: rest) := by
  unfold Lexemes.pushBreak
  split
  · next hdone =>
    rw [hdone]
    exact ⟨_, _, rfl, rfl, .refl⟩
  · exact ⟨_, _, rfl, rfl, .more [_]⟩

/-- There is a break at the end of an enclosure. -/
lemma exists_break_of_isStop (he : e.isStop = true) :
    ∃ l rest, (e.apply definitions s).done = l :: rest ∧ l.token = .break ∧
      Extends s.done (l :: rest) := by
  cases e with
  | stop kind span nested => cases kind <;> exact exists_break
  | _ => cases he

lemma extends_pushBreak : Extends s.done (s.pushBreak span).done := by
  obtain ⟨l, rest, e, -, h⟩ := @exists_break s span
  rw [e]
  exact h

/-- A break is added after text. -/
lemma length_pushBreak (h : startsWithText s.done = true) :
    (s.pushBreak span).done.length = s.done.length + 1 := by
  unfold Lexemes.pushBreak
  split
  · next hdone =>
    rw [hdone] at h
    cases h
  · rfl

/-- A heading adds a lexeme. -/
lemma Outside.heading_block {level text} (h : s.Outside) :
    (s.block definitions false (.heading level text span)).Outside ∧
      Extends s.done (s.block definitions false (.heading level text span)).done ∧
        s.done.length < (s.block definitions false (.heading level text span)).done.length := by
  have hinner : Onward { s with heading := some ⟨[], none⟩ }
      (inlines { s with heading := some ⟨[], none⟩ } (inlinesOf definitions text)) := .inlines
  rw [Lexemes.block]
  generalize inlines { s with heading := some ⟨[], none⟩ } (inlinesOf definitions text) = s'
    at hinner
  obtain ⟨heading, hheading⟩ := Option.isSome_iff_exists.1 hinner.heading
  have hclosed : ∀ image, s'.opened image = none := fun image => hinner.opened_none (h.opened image)
  simp only [hheading]
  exact ⟨⟨rfl, hclosed⟩, hinner.extends_done.prepend [_],
    Nat.lt_succ_of_le hinner.extends_done.length_le⟩

/-- A block of code adds a lexeme after text. -/
lemma Outside.fence_block {info content} (h : s.Outside) :
    (s.block definitions false (.fence info content span)).Outside ∧
      Extends s.done (s.block definitions false (.fence info content span)).done ∧
        (startsWithText s.done = true →
          s.done.length < (s.block definitions false (.fence info content span)).done.length) := by
  rw [Lexemes.block]
  split
  · refine ⟨h.pushBreak, extends_pushBreak, fun hs => ?_⟩
    rw [length_pushBreak hs]
    exact Nat.lt_succ_self _
  · have hpush : (s.push (.fence (Text.trim info) content) span).Outside := ⟨h.heading, h.opened⟩
    have hextends := @extends_pushBreak (s.push (.fence (Text.trim info) content) span) span
    exact ⟨hpush.pushBreak, (Extends.more [_]).trans hextends,
      fun _ => Nat.lt_of_lt_of_le (Nat.lt_succ_self _) hextends.length_le⟩

/-- An event adds to what is read and leaves nothing open. -/
theorem Outside.apply (h : s.Outside) :
    (e.apply definitions s).Outside ∧ Extends s.done (e.apply definitions s).done := by
  cases e with
  | start kind => cases kind <;> exact ⟨⟨h.heading, h.opened⟩, .refl⟩
  | stop kind span nested =>
    have hbreak := @Outside.pushBreak s span h
    cases kind <;> exact ⟨⟨hbreak.heading, hbreak.opened⟩, extends_pushBreak⟩
  | inline part =>
    have hinline : Onward s (s.inline part) := .inline
    exact ⟨h.onward hinline, hinline.extends_done⟩
  | heading level text span =>
    obtain ⟨houtside, hextends, -⟩ := @Outside.heading_block s span definitions level text h
    exact ⟨houtside, hextends⟩
  | fence info content span =>
    obtain ⟨houtside, hextends, -⟩ := @Outside.fence_block s span definitions info content h
    exact ⟨houtside, hextends⟩
  | indented span => exact ⟨h.pushBreak, extends_pushBreak⟩
  | html content span =>
    have hhtml : Onward s (s.html content span) := .html
    exact ⟨h.onward hhtml, hhtml.extends_done⟩

/-- Text outside of headings, links and images goes on with the text before it, or is added. -/
lemma Outside.done_text {chars} (h : s.Outside) :
    ∃ before span' quoted listed rest, (s.text chars span).done =
      ⟨.text (before ++ chars), span', quoted, listed⟩ :: rest ∧
        (startsWithText s.done = true → rest.length + 1 = s.done.length) := by
  obtain ⟨done, quoted, listed, heading, link, image⟩ := s
  obtain rfl : heading = none := h.heading
  obtain rfl : link = none := h.opened false
  obtain rfl : image = none := h.opened true
  have hadded {done : List Lexeme} (hs : startsWithText done = false) :
      startsWithText done = true → done.length + 1 = done.length := by
    rw [hs]
    rintro ⟨⟩
  cases done with
  | nil => exact ⟨[], _, _, _, _, rfl, hadded rfl⟩
  | cons l done =>
    obtain ⟨token, span', quoted', listed'⟩ := l
    cases token with
    | text before => exact ⟨before, _, _, _, _, rfl, fun _ => rfl⟩
    | _ => exact ⟨[], _, _, _, _, rfl, hadded rfl⟩

/-- HTML outside of headings adds a comment of the story, and nothing else. -/
lemma Outside.html_cases {chars} (h : s.Outside) :
    (isComment chars = false ∧ s.html chars span = s) ∨
      (isComment chars = true ∧
        s.html chars span = s.push (.comment (commentBody chars)) span) := by
  rw [Lexemes.html, h.heading]
  cases hcomment : isComment chars with
  | false => exact .inl ⟨rfl, rfl⟩
  | true => exact .inr ⟨rfl, rfl⟩

/-- An event after text is mute, or adds a lexeme. -/
theorem Outside.apply_cases (h : s.Outside) (hs : startsWithText s.done = true) :
    (e.isMute = true ∧ startsWithText (e.apply definitions s).done = true ∧
      (e.apply definitions s).done.length = s.done.length) ∨
        (e.isMute = false ∧ s.done.length < (e.apply definitions s).done.length) := by
  -- a text goes on the text before it, and whatever else is not mute is put behind it
  have htext {chars span} : startsWithText (s.text chars span).done = true ∧
      (s.text chars span).done.length = s.done.length := by
    obtain ⟨before, span', quoted, listed, rest, hdone, hlength⟩ :=
      @Outside.done_text s span chars h
    rw [hdone]
    exact ⟨rfl, hlength hs⟩
  have hbreak {span} : s.done.length < (s.pushBreak span).done.length := by
    rw [length_pushBreak hs]
    exact Nat.lt_succ_self _
  cases e with
  | start kind => cases kind <;> exact .inl ⟨rfl, hs, rfl⟩
  | stop kind span nested => cases kind <;> exact .inr ⟨rfl, hbreak⟩
  | inline part =>
    cases part with
    | text chars span => exact .inl ⟨rfl, htext⟩
    | run run span => exact .inl ⟨rfl, htext⟩
    | lineBreak span =>
      refine .inr ⟨rfl, ?_⟩
      rw [Event.apply, Lexemes.inline, h.isInside]
      exact Nat.lt_succ_self _
    | code chars span =>
      refine .inr ⟨rfl, ?_⟩
      rw [Event.apply, Lexemes.inline, h.isInside]
      exact Nat.lt_succ_self _
    | html chars span =>
      rw [Event.apply, Lexemes.inline, Event.isMute]
      obtain ⟨hcomment, e⟩ | ⟨hcomment, e⟩ := @Outside.html_cases s span chars h
      · rw [e, hcomment]
        exact .inl ⟨rfl, hs, rfl⟩
      · rw [e, hcomment]
        exact .inr ⟨rfl, Nat.lt_succ_self _⟩
    | link image children target span => exact .inr ⟨rfl, (Onward.link fun _ => .inlines).2⟩
  | heading level text span =>
    exact .inr ⟨rfl, (@Outside.heading_block s span definitions level text h).2.2⟩
  | fence info content span =>
    exact .inr ⟨rfl, (@Outside.fence_block s span definitions info content h).2.2 hs⟩
  | indented span => exact .inr ⟨rfl, hbreak⟩
  | html content span =>
    rw [Event.apply, Event.isMute]
    obtain ⟨hcomment, e⟩ | ⟨hcomment, e⟩ := @Outside.html_cases s span content h
    · rw [e, hcomment]
      exact .inl ⟨rfl, hs, rfl⟩
    · rw [e, hcomment]
      exact .inr ⟨rfl, Nat.lt_succ_self _⟩

/-- Events add to what is read and leave nothing open. -/
theorem Outside.foldl (h : s.Outside) :
    (events.foldl (Event.apply definitions) s).Outside ∧
      Extends s.done (events.foldl (Event.apply definitions) s).done := by
  induction events generalizing s with
  | nil => exact ⟨h, .refl⟩
  | cons e events ih =>
    obtain ⟨houtside, hextends⟩ := @Outside.apply s definitions e h
    obtain ⟨houtside', hextends'⟩ := ih houtside
    exact ⟨houtside', hextends.trans hextends'⟩

/-- Events after text add a lexeme, unless all of them are mute. -/
theorem Outside.foldl_cases (h : s.Outside) (hs : startsWithText s.done = true) :
    ((∀ e ∈ events, e.isMute = true) ∧
      startsWithText (events.foldl (Event.apply definitions) s).done = true ∧
        (events.foldl (Event.apply definitions) s).done.length = s.done.length) ∨
      (¬(∀ e ∈ events, e.isMute = true) ∧
        s.done.length < (events.foldl (Event.apply definitions) s).done.length) := by
  induction events generalizing s with
  | nil => exact .inl ⟨List.forall_mem_nil _, hs, rfl⟩
  | cons e events ih =>
    obtain ⟨houtside, -⟩ := @Outside.apply s definitions e h
    rw [List.forall_mem_cons, List.foldl_cons]
    obtain ⟨hmute, hs', hlength⟩ | ⟨hmute, hlt⟩ := @Outside.apply_cases s definitions e h hs
    · rw [hmute, ← hlength]
      simpa using ih houtside hs'
    · rw [hmute]
      refine .inr ⟨fun hall => Bool.false_ne_true hall.1, ?_⟩
      exact Nat.lt_of_lt_of_le hlt (houtside.foldl.2.length_le)

end Reading

end Lexemes

end Gamebook.Markup
