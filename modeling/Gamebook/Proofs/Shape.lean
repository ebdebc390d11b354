import Gamebook.Proofs.Contents
import Mathlib.Data.List.DropRight

/-!
# The shape of stories

What every story that is read from a source keeps to: conditions do not hold one another, headers
stand where they are written back, paragraphs have no blanks at their ends, and the images are
listed. Main definition: `Story.WellShaped`. Main statement: `Markup.wellShaped_assemble`.
-/

namespace Gamebook

open Markup

namespace Text

variable {cs : List Char}

lemma not_isBlank_head_trim : ∀ c ∈ (trim cs).head?, isBlank c = false := by
  intro c hc
  obtain ⟨rest, e⟩ : trim cs <+: cs.dropWhile isBlank := List.rdropWhile_prefix isBlank _
  have first := List.head?_dropWhile_not isBlank cs
  rw [← e, List.head?_append, hc, Option.some_or] at first
  exact first

lemma not_isBlank_getLast_trim : ∀ c ∈ (trim cs).getLast?, isBlank c = false := by
  intro c hc
  have last := List.head?_dropWhile_not isBlank (trimStart cs).reverse
  rw [trim, trimEnd, dropEndWhile, List.getLast?_reverse] at hc
  rw [hc] at last
  exact last

end Text

namespace Part

/-- The image that a part is. -/
def image? : Part → Option Image
  | image i => some i
  | _ => none

/-- The parts in the branches of a part, at any depth. -/
def inside : Part → List Part
  | condition _ whenTrue whenFalse => preorderAll whenTrue ++ preorderAll whenFalse
  | _ => []

/-- Whether the branches of a part hold what branches hold. -/
def Shallow (part : Part) : Prop :=
  ∀ inner ∈ part.inside, inner.Inner

variable {part : Part} {parts : List Part}

lemma preorder_eq : part.preorder = part :: part.inside := by
  cases part <;> rfl

lemma isHeader_alone : part.alone.isHeader = part.isHeader := by
  cases part <;> rfl

lemma Inner.inside (h : part.Inner) : part.inside = [] := by
  cases hc : part.isCondition with
  | true =>
    obtain ⟨code, -, rfl⟩ := h.2 hc
    rfl
  | false =>
    cases part with
    | condition c whenTrue whenFalse => cases hc
    | _ => rfl

lemma Inner.shallow (h : part.Inner) : part.Shallow := by
  rw [Shallow, h.inside]
  exact List.forall_mem_nil _

lemma shallow_preorderAll (h : ∀ part ∈ parts, part.Shallow) :
    ∀ part ∈ preorderAll parts, part.Shallow := by
  intro part hp
  obtain ⟨top, htop, hp⟩ := mem_preorderAll.1 hp
  rw [preorder_eq] at hp
  cases List.mem_cons.1 hp with
  | inl e => exact e ▸ h top htop
  | inr hp => exact (h top htop part hp).shallow

lemma preorderAll_of_inner (h : ∀ part ∈ parts, part.Inner) : preorderAll parts = parts := by
  induction parts with
  | nil => rfl
  | cons part parts ih =>
    obtain ⟨hpart, hparts⟩ := List.forall_mem_cons.1 h
    rw [preorderAll, preorder_eq, hpart.inside, ih hparts, List.singleton_append]

/-- A part that holds no others has branches that hold what branches hold. -/
lemma shallow_of_isFlat (h : part.isFlat = true) : part.Shallow := by
  cases part with
  | condition c whenTrue whenFalse =>
    obtain ⟨htrue, hfalse⟩ := (Bool.and_eq_true _ _).mp h
    rw [Shallow, inside, List.isEmpty_iff.1 htrue, List.isEmpty_iff.1 hfalse]
    exact List.forall_mem_nil _
  | _ => exact List.forall_mem_nil _

mutual

lemma images_eq : ∀ {part : Part}, part.images = part.preorder.filterMap image?
  | header _ => rfl
  | link _ => rfl
  | image _ => rfl
  | paragraph _ _ => rfl
  | comment _ => rfl
  | navigation _ _ => rfl
  | condition c whenTrue whenFalse => by
    rw [images, preorder, List.filterMap_cons_none rfl, List.filterMap_append,
      imagesOf_eq, imagesOf_eq]
  | action _ => rfl

/-- The images of parts are the images among the parts and the parts in their branches. -/
lemma imagesOf_eq : ∀ {parts : List Part}, imagesOf parts = (preorderAll parts).filterMap image?
  | [] => rfl
  | part :: parts => by
    rw [imagesOf, preorderAll, List.filterMap_append, images_eq, imagesOf_eq]

end

end Part

namespace Markup.Draft

variable {d d' : Draft} {part : Part} {es : List Entry}

/-- Whether the branches of all conditions hold what branches hold. -/
structure Shallow (d : Draft) : Prop where
  description : ∀ part ∈ d.description, part.Shallow
  sections : ∀ s ∈ d.sections, ∀ part ∈ s.parts, part.Shallow
  current : ∀ s, d.current = some s → ∀ part ∈ s.parts, part.Shallow
  frame : ∀ frame, d.frame = some frame → ∀ part ∈ frame.whenTrue ++ frame.whenFalse, part.Inner

/-- Nothing is asked of what is not there. -/
lemma forall_of_none {α : Type} {o : Option α} {p : α → Prop} (h : o = none) :
    ∀ a, o = some a → p a := by
  rintro a rfl
  cases h

lemma Shallow.note {span} (hd : d.Shallow) : (d.note part span).Shallow := by
  obtain ⟨targets, diagnostics, e⟩ := @note_eq d part span
  rw [e]
  exact ⟨hd.description, hd.sections, hd.current, hd.frame⟩

lemma shallow_toPart {c : OpenCondition} (h : ∀ part ∈ c.whenTrue ++ c.whenFalse, part.Inner) :
    c.toPart.Shallow := by
  obtain ⟨htrue, hfalse⟩ := List.forall_mem_append.1 h
  rw [Part.Shallow, OpenCondition.toPart, Part.inside, Part.preorderAll_of_inner htrue,
    Part.preorderAll_of_inner hfalse]
  exact h

lemma inner_add {c : OpenCondition} (hc : ∀ part ∈ c.whenTrue ++ c.whenFalse, part.Inner)
    (h : part.Inner) : ∀ inner ∈ (c.add part).whenTrue ++ (c.add part).whenFalse, inner.Inner := by
  obtain ⟨condition, inElse, whenTrue, whenFalse, span⟩ := c
  obtain ⟨htrue, hfalse⟩ := List.forall_mem_append.1 hc
  have one : ∀ inner ∈ [part], inner.Inner := List.forall_mem_singleton.2 h
  cases inElse with
  | false => exact List.forall_mem_append.2 ⟨List.forall_mem_append.2 ⟨htrue, one⟩, hfalse⟩
  | true => exact List.forall_mem_append.2 ⟨htrue, List.forall_mem_append.2 ⟨hfalse, one⟩⟩

lemma shallow_emit (hd : d.Shallow) (h : part.Shallow)
    (hframe : ∀ frame, d.frame = some frame → part.Inner) : (d.emit part).Shallow := by
  obtain ⟨description, sections, current, frame⟩ := hd
  have one : ∀ p ∈ [part], p.Shallow := List.forall_mem_singleton.2 h
  rw [emit]
  cases hf : d.frame with
  | some c =>
    refine ⟨description, sections, current, ?_⟩
    rintro _ ⟨⟩
    exact inner_add (frame c hf) (hframe c hf)
  | none =>
    cases hc : d.current with
    | some s =>
      refine ⟨description, sections, ?_, forall_of_none rfl⟩
      rintro _ ⟨⟩
      exact List.forall_mem_append.2 ⟨current s hc, one⟩
    | none =>
      exact ⟨List.forall_mem_append.2 ⟨description, one⟩, sections, forall_of_none rfl,
        forall_of_none rfl⟩

lemma shallow_closeFrame (hd : d.Shallow) : d.closeFrame.Shallow := by
  rw [closeFrame]
  cases hf : d.frame with
  | none => exact hd
  | some c =>
    refine shallow_emit ⟨hd.description, hd.sections, hd.current, forall_of_none rfl⟩ ?_
      (forall_of_none rfl)
    exact shallow_toPart (hd.frame c hf)

lemma shallow_finishSection (hd : d.Shallow) : d.finishSection.Shallow := by
  rw [finishSection]
  cases hc : d.current with
  | none => exact hd
  | some s =>
    have one : ∀ s' ∈ [s], ∀ part ∈ s'.parts, part.Shallow :=
      List.forall_mem_singleton.2 (hd.current s hc)
    have sections := List.forall_mem_append.2 ⟨hd.sections, one⟩
    exact ⟨hd.description, sections, forall_of_none rfl, hd.frame⟩

lemma shallow_startOf {dialect level text anchor} :
    ∀ part ∈ (startOf dialect level text anchor).parts, part.Shallow := by
  intro part hp
  rw [mem_parts_startOf hp]
  exact List.forall_mem_nil _

/-- No move puts a header or a condition into a condition. -/
lemma shallow_move (h : Move d es d') (hd : d.Shallow) : d'.Shallow := by
  cases h with
  | content _ flat fits =>
    refine shallow_emit hd.note (Part.shallow_of_isFlat flat) ?_
    obtain hf | inner := fits
    · exact forall_of_none (frame_note.trans hf)
    · exact fun _ _ => inner
  | opening =>
    refine ⟨hd.note.description, hd.note.sections, hd.note.current, ?_⟩
    rintro _ ⟨⟩
    exact List.forall_mem_nil _
  | @otherwise frame hf =>
    refine ⟨hd.description, hd.sections, hd.current, ?_⟩
    rintro _ ⟨⟩
    exact hd.frame frame hf
  | closing => exact shallow_closeFrame hd
  | abandon => exact shallow_closeFrame ⟨hd.description, hd.sections, hd.current, hd.frame⟩
  | aside => exact ⟨hd.description, hd.sections, hd.current, hd.frame⟩
  | title =>
    have finished := shallow_finishSection hd
    exact ⟨finished.description, finished.sections, finished.current, finished.frame⟩
  | start =>
    have finished := shallow_finishSection hd
    refine ⟨finished.description, finished.sections, ?_, finished.frame⟩
    rintro _ ⟨⟩
    exact shallow_startOf

/-- A story is finished with the branches that its draft has. -/
lemma shallow_reading {dialect lexemes} : (reading dialect lexemes).finishSection.Shallow := by
  have empty : Shallow empty :=
    ⟨List.forall_mem_nil _, List.forall_mem_nil _, forall_of_none rfl, forall_of_none rfl⟩
  exact shallow_finishSection (moves_reading.1.keeps shallow_move empty)

end Markup.Draft

/-- What the makers and the readers of stories rely on. -/
structure Story.WellShaped (dialect : Dialect) (story : Story) : Prop where
  /-- Branches hold no headers, and no conditions but code that is kept. -/
  branches : ∀ part ∈ Part.preorderAll story.parts, part.Shallow
  /-- Chapters have no headers but the heading of a section at its start. -/
  headers : dialect = .chapter →
    (∀ part ∈ Part.preorderAll story.description, part.isHeader = false) ∧
      ∀ s ∈ story.sections, ∀ before text after,
        Part.preorderAll s.parts = before ++ .header text :: after → before = [] ∧ text = s.heading
  /-- Every header is written, by itself or as the heading of its section. -/
  written : ∀ parts ∈ story.description ::
      story.sections.map (fun s => (s.shownParts? dialect).getD s.parts),
    ∀ text, .header text ∈ Part.preorderAll parts → ∀ beforeLink,
      "## ".toList ++ text.toList <+: (Part.header text).markdown dialect beforeLink
  /-- Paragraphs have text, and no blanks at its ends. -/
  paragraphs : ∀ text quoting, .paragraph text quoting ∈ Part.preorderAll story.parts →
    text.toList ≠ [] ∧ (∀ c ∈ text.toList.head?, Text.isBlank c = false) ∧
      ∀ c ∈ text.toList.getLast?, Text.isBlank c = false
  /-- The images are those of the sections in order, the ones in branches included. -/
  images : story.images =
    story.sections.flatMap fun s => (Part.preorderAll s.parts).filterMap Part.image?

namespace Markup

open Gamebook.Part

variable {dialect : Dialect} {lexemes : List Lexeme}

/-- Whether a heading has one of the levels that headings have. -/
def Token.hasLevel : Token → Bool
  | heading level _ _ => 1 ≤ level && level ≤ 6
  | _ => true

lemma shallow_assemble :
    ∀ part ∈ preorderAll (assemble dialect lexemes).story.parts, part.Shallow := by
  have drafted := @Draft.shallow_reading dialect lexemes
  refine Part.shallow_preorderAll (List.forall_mem_append.2 ⟨fun part hp => ?_, ?_⟩)
  · exact drafted.description part (introducedBy_assemble.subset hp)
  · rw [sections_assemble]
    exact fun part hp => (List.mem_flatMap.1 hp).elim fun s hs => drafted.sections s hs.1 part hs.2

/-- Headings of chapters add no headers, but those that sections start with. -/
lemma isHeader_contents {e : Entry} (hlevels : ∀ l ∈ lexemes, l.token.hasLevel = true)
    (he : e ∈ entriesOf .chapter lexemes) (hturn : e.isTurn = false) :
    ∀ part ∈ e.contents, part.isHeader = false := by
  obtain ⟨l, hl, source⟩ := exists_of_mem_entriesFrom he
  cases source with
  | title => cases hturn
  | start => cases hturn
  | @header level text anchor token title starts =>
    have hlevel := hlevels l hl
    rw [token, Token.hasLevel, Bool.and_eq_true, decide_eq_true_iff, decide_eq_true_iff] at hlevel
    rw [Dialect.startsSection, Bool.and_eq_false_iff, decide_eq_false_iff_not,
      decide_eq_false_iff_not] at starts
    omega
  | paragraph h =>
    rw [(paragraph?_eq_some h).2]
    exact List.forall_mem_singleton.2 rfl
  | otherwise => exact List.forall_mem_nil _
  | closing => exact List.forall_mem_nil _
  | _ => exact List.forall_mem_singleton.2 rfl

lemma isHeader_description (hlevels : ∀ l ∈ lexemes, l.token.hasLevel = true) {part}
    (h : part ∈ preorderAll (assemble .chapter lexemes).story.description) :
    part.isHeader = false := by
  obtain ⟨e, he, hturn, hp⟩ := exists_entry_of_description h
  rw [← isHeader_alone]
  exact isHeader_contents hlevels he hturn _ hp

/-- A section starts with nothing or with its heading. -/
lemma parts_of_start {l : Lexeme} {made : Section} (h : Entry.Of dialect l (.start made)) :
    made.parts = [] ∨ made.parts = [.header made.heading] := by
  cases h with
  | start =>
    rw [heading_startOf]
    exact parts_startOf

/-- A chapter has a header only as the repeated heading at the start of a section. -/
lemma headers_chapter (hlevels : ∀ l ∈ lexemes, l.token.hasLevel = true) {s : Section}
    (hs : s ∈ (assemble .chapter lexemes).story.sections) {before text after}
    (h : preorderAll s.parts = before ++ .header text :: after) :
    before = [] ∧ text = s.heading := by
  obtain ⟨made, parts, hmade, e, hparts⟩ := mem_sectionsOf (laidOut_mem hs)
  have bare : .header text ∉ parts := by
    intro hp
    obtain ⟨entry, he, hturn, hp⟩ := hparts _ hp
    cases isHeader_contents hlevels he hturn _ hp
  have hheading : s.laidOut.heading = made.heading := by
    rw [e]
  have hlaid : made.parts ++ parts = before.map alone ++ .header text :: after.map alone := by
    have hlaid : layOut s.parts = made.parts ++ parts := congrArg Section.parts e
    rw [← hlaid, layOut, h, List.map_append, List.map_cons]
    rfl
  obtain ⟨l, -, source⟩ := exists_of_mem_entriesFrom hmade
  obtain hstart | hstart := parts_of_start source
  · rw [hstart, List.nil_append] at hlaid
    exact (bare (hlaid ▸ List.mem_append_right _ List.mem_cons_self)).elim
  · rw [hstart, List.singleton_append] at hlaid
    cases before with
    | nil =>
      cases hlaid
      exact ⟨rfl, hheading.symm⟩
    | cons first before =>
      obtain ⟨-, hlaid⟩ := List.cons.inj hlaid
      exact (bare (hlaid ▸ List.mem_append_right _ List.mem_cons_self)).elim

/-- A heading that a section repeats is written with its section and the only header there is. -/
lemma isHeader_shown {s : Section}
    (h : ∀ before text after, preorderAll s.parts = before ++ .header text :: after →
      before = [] ∧ text = s.heading) :
    ∀ part ∈ preorderAll ((s.shownParts? .chapter).getD s.parts), part.isHeader = false := by
  obtain ⟨id, heading, parts⟩ := s
  intro part hp
  cases part with
  | header text =>
    cases parts with
    | nil => cases hp
    | cons first rest =>
      cases first with
      | header text' =>
        obtain ⟨-, rfl⟩ := h [] text' (preorderAll rest) rfl
        simp only [Section.shownParts?, if_true, Option.getD_some] at hp
        obtain ⟨before, after, e⟩ := List.append_of_mem hp
        have hparts : preorderAll (.header text' :: rest) =
            (.header text' :: before) ++ .header text :: after :=
          congrArg (Part.header text' :: ·) e
        cases (h _ _ _ hparts).1
      | _ =>
        obtain ⟨before, after, e⟩ := List.append_of_mem hp
        obtain ⟨rfl, -⟩ := h _ _ _ e
        cases e
  | _ => rfl

/-- A paragraph has the text of its entry without the blanks around it. -/
lemma exists_trim {l : Lexeme} {e : Entry} {text quoting} (source : Entry.Of dialect l e)
    (h : .paragraph text quoting ∈ e.contents) :
    ∃ cs, Text.trim cs ≠ [] ∧ text = .ofList (Text.trim cs) := by
  cases source with
  | start => cases mem_parts_startOf h
  | paragraph hp =>
    obtain ⟨hne, rfl⟩ := paragraph?_eq_some hp
    cases List.mem_singleton.1 h
    exact ⟨_, hne, rfl⟩
  | title => cases h
  | otherwise => cases h
  | closing => cases h
  | _ => cases List.mem_singleton.1 h

/-- The stories of documents keep to what their makers and readers rely on. -/
theorem wellShaped_assemble (dialect : Dialect) (lexemes : List Lexeme)
    (hlevels : ∀ l ∈ lexemes, l.token.hasLevel = true) :
    (assemble dialect lexemes).story.WellShaped dialect where
  branches := shallow_assemble
  headers := by
    rintro rfl
    exact ⟨fun part => isHeader_description hlevels,
      fun s hs before text after => headers_chapter hlevels hs⟩
  written := by
    intro parts hparts text hp beforeLink
    cases dialect with
    | scene => exact List.prefix_append _ _
    | chapter =>
      have bare : ∀ part ∈ preorderAll parts, part.isHeader = false := by
        cases List.mem_cons.1 hparts with
        | inl e => exact e ▸ fun part => isHeader_description hlevels
        | inr h =>
          obtain ⟨s, hs, rfl⟩ := List.mem_map.1 h
          exact isHeader_shown fun before text after => headers_chapter hlevels hs
      cases bare _ hp
  paragraphs := by
    intro text quoting hp
    obtain ⟨e, he, hp⟩ := exists_entry hp
    obtain ⟨l, -, source⟩ := exists_of_mem_entriesFrom he
    obtain ⟨text', hne, rfl⟩ := exists_trim source hp
    rw [String.toList_ofList]
    exact ⟨hne, Text.not_isBlank_head_trim, Text.not_isBlank_getLast_trim⟩
  images := by
    have listed : (assemble dialect lexemes).story.images =
        Story.sectionImages (assemble dialect lexemes).story.sections := rfl
    rw [listed, Story.sectionImages]
    simp only [imagesOf_eq]

/-- A door that may be locked, with a remark that is no marker in one of its branches. -/
def atTheDoor : List Lexeme :=
  [⟨.heading 2 "The door".toList none, ⟨0, 11⟩, false, false⟩,
    ⟨.code "\x7blocked\x7d \x7b".toList, ⟨13, 25⟩, false, false⟩,
    ⟨.text " You need a key. ".toList, ⟨25, 42⟩, false, false⟩,
    ⟨.code "to do".toList, ⟨42, 49⟩, false, false⟩,
    ⟨.code "\x7d".toList, ⟨51, 54⟩, false, false⟩,
    ⟨.image "A door".toList "door.png".toList, ⟨56, 75⟩, false, false⟩]

theorem wellShaped_atTheDoor :
    (∀ l ∈ atTheDoor, l.token.hasLevel = true) ∧
      (assemble .chapter atTheDoor).story.WellShaped .chapter := by
  have hlevels : ∀ l ∈ atTheDoor, l.token.hasLevel = true := by decide
  exact ⟨hlevels, wellShaped_assemble .chapter atTheDoor hlevels⟩

end Markup

end Gamebook
