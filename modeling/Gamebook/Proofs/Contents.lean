import Gamebook.Proofs.Moves

/-!
# Contents

Nothing is lost, doubled or put elsewhere when a story is put together: the parts of a section and
of the description, each before the parts in its branches, are the contents of the entries that
belong there, in the order of the lexemes. The proof looks at a draft through its `Layout`, in which
the branches of conditions are laid out; there an entry only adds its contents at the end. Main
definitions: `Part.preorder`, `Section.laidOut`, `Markup.Draft.layout`. Main statements:
`Markup.Draft.layout_moves`, `Markup.contents_assemble`.
-/

namespace Gamebook

namespace Part

mutual

/-- A part and the parts in its branches, each before those in its own branches. -/
def preorder : Part → List Part
  | condition c whenTrue whenFalse =>
    condition c whenTrue whenFalse :: (preorderAll whenTrue ++ preorderAll whenFalse)
  | part => [part]

/-- Parts, each followed by the parts in its branches. -/
def preorderAll : List Part → List Part
  | [] => []
  | part :: parts => part.preorder ++ preorderAll parts

end

/-- A part without the parts in its branches. -/
def alone : Part → Part
  | condition c _ _ => condition c [] []
  | part => part

/-- Parts and the parts in their branches, one after the other. -/
def layOut (parts : List Part) : List Part :=
  (preorderAll parts).map alone

variable {parts parts' : List Part}

lemma preorderAll_append :
    preorderAll (parts ++ parts') = preorderAll parts ++ preorderAll parts' := by
  induction parts with
  | nil => rfl
  | cons part parts ih =>
    rw [List.cons_append, preorderAll, ih, preorderAll, List.append_assoc]

lemma mem_preorderAll {part : Part} :
    part ∈ preorderAll parts ↔ ∃ top ∈ parts, part ∈ top.preorder := by
  induction parts with
  | nil => simp only [preorderAll, List.not_mem_nil, false_and, exists_false]
  | cons top parts ih => rw [preorderAll, List.mem_append, ih, List.exists_mem_cons_iff]

lemma preorderAll_singleton {part : Part} : preorderAll [part] = part.preorder :=
  List.append_nil _

lemma layOut_append : layOut (parts ++ parts') = layOut parts ++ layOut parts' := by
  rw [layOut, preorderAll_append, List.map_append, ← layOut, ← layOut]

lemma layOut_condition {c whenTrue whenFalse} :
    layOut [condition c whenTrue whenFalse] =
      condition c [] [] :: (layOut whenTrue ++ layOut whenFalse) := by
  rw [layOut, preorderAll_singleton, preorder, List.map_cons, List.map_append, alone, ← layOut,
    ← layOut]

/-- A part that holds no others stays as it is. -/
lemma layOut_of_isFlat {part : Part} (h : part.isFlat = true) : layOut [part] = [part] := by
  cases part with
  | condition c whenTrue whenFalse =>
    obtain ⟨htrue, hfalse⟩ := (Bool.and_eq_true _ _).mp h
    rw [List.isEmpty_iff.1 htrue, List.isEmpty_iff.1 hfalse]
    rfl
  | _ => rfl

end Part

/-- A section with the branches of its conditions laid out. -/
def Section.laidOut (s : Section) : Section :=
  { s with parts := Part.layOut s.parts }

lemma Part.layOut_sections {sections : List Section} :
    layOut (sections.flatMap Section.parts) =
      (sections.map Section.laidOut).flatMap Section.parts := by
  induction sections with
  | nil => rfl
  | cons s sections ih =>
    rw [List.flatMap_cons, layOut_append, ih, List.map_cons, List.flatMap_cons, Section.laidOut]

/-- The parts of the description and of the sections. -/
def Story.parts (story : Story) : List Part :=
  story.description ++ story.sections.flatMap Section.parts

/-- The settings and the parts of a story, with the parts in branches. -/
def Story.everything (story : Story) : List Part :=
  .action story.settings :: Part.preorderAll story.parts

/--
Whether the settings and the description of a story come from some parts: the first action among
them is the settings, all else is the description.
-/
def Story.IntroducedBy (story : Story) (parts : List Part) : Prop :=
  (story.settings = .setting .empty ∧ story.description = parts ∧
    ∀ part ∈ parts, part.isAction = false) ∨
  ∃ before after, parts = before ++ .action story.settings :: after ∧
    story.description = before ++ after ∧ ∀ part ∈ before, part.isAction = false

lemma Story.IntroducedBy.subset {story : Story} {parts} (h : story.IntroducedBy parts) :
    story.description ⊆ parts := by
  obtain ⟨-, e, -⟩ | ⟨before, after, rfl, e, -⟩ := h
  · exact fun _ hp => e ▸ hp
  · rw [e]
    exact List.append_subset.2
      ⟨List.subset_append_left _ _, fun _ hp => List.mem_append_right _ (List.mem_cons_of_mem _ hp)⟩

namespace Markup

open Gamebook.Part

/-- The content of a story with branches laid out, where the last section may be open. -/
structure Layout where
  /-- The content outside of sections. -/
  description : List Part
  /-- The finished sections. -/
  sections : List Section
  /-- The open section. -/
  current : Option Section

namespace Layout

variable {o : Layout} {parts parts' : List Part}

/-- Adds content to the open section, or else to the description. -/
def put (parts : List Part) (o : Layout) : Layout :=
  match o.current with
  | some s => { o with current := some { s with parts := s.parts ++ parts } }
  | none => { o with description := o.description ++ parts }

/-- Finishes the open section. -/
def finish (o : Layout) : Layout :=
  match o.current with
  | some s => { o with current := none, sections := o.sections ++ [s] }
  | none => o

/-- Adds an entry. -/
def add (o : Layout) : Entry → Layout
  | .title => o.finish
  | .start made => { o.finish with current := some made }
  | entry => o.put entry.contents

lemma put_nil : o.put [] = o := by
  obtain ⟨description, sections, current⟩ := o
  cases current with
  | none => simp only [put, List.append_nil]
  | some s => simp only [put, List.append_nil]

lemma put_put : (o.put parts).put parts' = o.put (parts ++ parts') := by
  obtain ⟨description, sections, current⟩ := o
  cases current with
  | none => simp only [put, List.append_assoc]
  | some s => simp only [put, List.append_assoc]

lemma current_finish : o.finish.current = none := by
  obtain ⟨description, sections, current⟩ := o
  cases current <;> rfl

/-- Entries are shared out among the open section, the sections after it and the description. -/
lemma foldl_add {entries : List Entry} :
    (entries.foldl add o).finish =
      { description :=
          (o.put (contentsAhead entries)).finish.description ++ titledContents entries
        sections := (o.put (contentsAhead entries)).finish.sections ++ sectionsOf entries
        current := none } := by
  induction entries generalizing o with
  | nil =>
    rw [List.foldl_nil, contentsAhead, List.takeWhile_nil, List.flatMap_nil, put_nil,
      titledContents, sectionsOf, List.append_nil, List.append_nil, ← current_finish]
  | cons entry entries ih =>
    rw [List.foldl_cons, ih]
    obtain ⟨description, sections, current⟩ := o
    cases entry with
    | title =>
      cases current with
      | none => simp [add, finish, put, contentsAhead, titledContents, sectionsOf, Entry.isTurn]
      | some s => simp [add, finish, put, contentsAhead, titledContents, sectionsOf, Entry.isTurn]
    | start made =>
      cases current with
      | none => simp [add, finish, put, contentsAhead, titledContents, sectionsOf, Entry.isTurn]
      | some s => simp [add, finish, put, contentsAhead, titledContents, sectionsOf, Entry.isTurn]
    | _ =>
      -- content comes before the content that is ahead
      simp only [add, put_put, titledContents, sectionsOf]
      rfl

end Layout

namespace OpenCondition

/-- Whether the second branch is empty before it is entered. -/
def Ordered (c : OpenCondition) : Prop :=
  c.inElse = false → c.whenFalse = []

lemma ordered_start {condition span} : (start condition span).Ordered :=
  fun _ => rfl

lemma ordered_add {c : OpenCondition} {part} (h : c.Ordered) : (c.add part).Ordered := by
  obtain ⟨condition, inElse, whenTrue, whenFalse, span⟩ := c
  cases inElse with
  | false => exact fun _ => h rfl
  | true => exact nofun

/-- What is added to a condition comes last in it. -/
lemma layOut_add {c : OpenCondition} {part} (h : c.Ordered) :
    layOut [(c.add part).toPart] = layOut [c.toPart] ++ layOut [part] := by
  obtain ⟨condition, inElse, whenTrue, whenFalse, span⟩ := c
  cases inElse with
  | false =>
    obtain rfl : whenFalse = [] := h rfl
    have hempty : layOut [] = [] := rfl
    simp only [add, toPart, layOut_condition, layOut_append, Bool.false_eq_true, if_false,
      List.cons_append, hempty, List.append_nil, List.nil_append]
  | true =>
    simp only [add, toPart, layOut_condition, layOut_append, if_true, List.cons_append,
      List.append_assoc]

end OpenCondition

namespace Draft

variable {d d' : Draft} {part : Part} {es : List Entry}

/-- The open condition as a part. -/
def held (d : Draft) : List Part :=
  d.frame.toList.map OpenCondition.toPart

/-- The content of a draft, with branches laid out. -/
def layout (d : Draft) : Layout :=
  Layout.put (layOut d.held)
    { description := layOut d.description
      sections := d.sections.map Section.laidOut
      current := d.current.map Section.laidOut }

/-- Whether the open condition fills its first branch first. -/
def Ordered (d : Draft) : Prop :=
  ∀ frame, d.frame = some frame → frame.Ordered

lemma ordered_of_none (h : d.frame = none) : d.Ordered :=
  fun _ hf => nomatch hf.symm.trans h

lemma layout_of_none (h : d.frame = none) :
    d.layout =
      { description := layOut d.description
        sections := d.sections.map Section.laidOut
        current := d.current.map Section.laidOut } := by
  rw [layout, held, h]
  exact Layout.put_nil

lemma ordered_emit (h : d.Ordered) : (d.emit part).Ordered := by
  cases hf : d.frame with
  | none => exact ordered_of_none (emit_frame hf)
  | some frame =>
    rw [emit, hf]
    rintro _ ⟨⟩
    exact OpenCondition.ordered_add (h frame hf)

lemma layout_emit_of_none (h : d.frame = none) :
    (d.emit part).layout = d.layout.put (layOut [part]) := by
  rw [layout_of_none h, layout_of_none (emit_frame h), emit, h]
  cases d.current with
  | none => simp only [layOut_append, Layout.put, Option.map_none]
  | some s => simp only [Section.laidOut, layOut_append, Layout.put, Option.map_some]

/-- A part is added at the end, in whatever branch or section it comes. -/
lemma layout_emit (h : d.Ordered) : (d.emit part).layout = d.layout.put (layOut [part]) := by
  cases hf : d.frame with
  | none => exact layout_emit_of_none hf
  | some frame =>
    have hheld : layOut (d.emit part).held = layOut d.held ++ layOut [part] := by
      rw [emit, hf, held, held, hf]
      exact OpenCondition.layOut_add (h frame hf)
    rw [layout, hheld, ← Layout.put_put, layout]
    rw [emit, hf]

/-- Closing a condition does not change what is laid out. -/
lemma layout_closeFrame : d.closeFrame.layout = d.layout := by
  rw [closeFrame]
  cases hf : d.frame with
  | none => rfl
  | some frame =>
    rw [layout_emit_of_none rfl, layout_of_none rfl, layout, held, hf]
    rfl

lemma layout_finishSection (h : d.frame = none) :
    d.finishSection.layout = d.layout.finish := by
  have hf : d.finishSection.frame = none := frame_finishSection.trans h
  rw [layout_of_none hf, layout_of_none h, finishSection]
  cases hc : d.current with
  | none => simp only [Layout.finish, Option.map_none, hc]
  | some s => simp only [Layout.finish, Option.map_some, Option.map_none, List.map_append,
      List.map_singleton]

lemma layout_note {span} : (d.note part span).layout = d.layout := by
  obtain ⟨targets, diagnostics, e⟩ := @note_eq d part span
  rw [e]
  rfl

lemma ordered_note {span} (h : d.Ordered) : (d.note part span).Ordered := by
  obtain ⟨targets, diagnostics, e⟩ := @note_eq d part span
  rw [e]
  exact h

lemma layout_open {c span} (h : d.frame = none) :
    { d with frame := some (.start c span) }.layout = d.layout.put [.condition c [] []] := by
  rw [layout_of_none h]
  rfl

lemma laidOut_startOf {dialect level text anchor} :
    (startOf dialect level text anchor).laidOut = startOf dialect level text anchor := by
  have laid : layOut (startOf dialect level text anchor).parts =
      (startOf dialect level text anchor).parts := by
    obtain e | e := @parts_startOf dialect level text anchor
    · rw [e]
      rfl
    · rw [e]
      rfl
  rw [Section.laidOut, laid]

lemma layout_start {dialect level text anchor headings} (h : d.frame = none) :
    { d.finishSection with
      headings := headings
      current := some (startOf dialect level text anchor) }.layout =
        { d.layout.finish with current := some (startOf dialect level text anchor) } := by
  have hf : d.finishSection.frame = none := frame_finishSection.trans h
  have started : { d.finishSection with
      headings := headings
      current := some (startOf dialect level text anchor) }.frame = none := hf
  rw [← layout_finishSection h, layout_of_none hf, layout_of_none started]
  simp only [Option.map_some, laidOut_startOf]

/-- A move adds its entry. -/
lemma layout_move (h : Move d es d') (hd : d.Ordered) :
    d'.layout = es.foldl Layout.add d.layout ∧ d'.Ordered := by
  -- the layout changes with content, where a condition is opened and where a section starts
  cases h with
  | @content e part span he flat =>
    refine ⟨?_, ordered_emit (ordered_note hd)⟩
    rw [layout_emit (ordered_note hd), layout_note, layOut_of_isFlat flat,
      ← Entry.contents_of_content? he]
    cases e with
    | part p => rfl
    | kept code span => rfl
    | _ => cases he
  | opening hf =>
    refine ⟨?_, fun _ hopen => Option.some.inj hopen ▸ OpenCondition.ordered_start⟩
    rw [layout_open (frame_note.trans hf), layout_note]
    rfl
  | @otherwise frame hf =>
    have hlayout : { d with frame := some { frame with inElse := true } }.layout = d.layout := by
      rw [layout, layout, held, held, hf]
      rfl
    refine ⟨hlayout.trans Layout.put_nil.symm, ?_⟩
    rintro _ ⟨⟩
    exact nofun
  | closing =>
    exact ⟨layout_closeFrame.trans Layout.put_nil.symm, ordered_of_none frame_closeFrame⟩
  | abandon => exact ⟨layout_closeFrame, ordered_of_none frame_closeFrame⟩
  | aside => exact ⟨rfl, hd⟩
  | title hf => exact ⟨layout_finishSection hf, ordered_of_none (frame_finishSection.trans hf)⟩
  | start hf => exact ⟨layout_start hf, ordered_of_none (frame_finishSection.trans hf)⟩

/-- Moves add their entries one after the other. -/
lemma layout_moves (h : Moves d es d') (hd : d.Ordered) :
    d'.layout = es.foldl Layout.add d.layout := by
  induction h with
  | refl => rfl
  | head first _ ih =>
    obtain ⟨e, hd'⟩ := layout_move first hd
    rw [ih hd', e, List.foldl_append]

/-- The content of the draft of lexemes is shared out as their entries say. -/
lemma layout_reading {dialect lexemes} :
    (reading dialect lexemes).finishSection.layout =
      { description := descriptionOf (entriesOf dialect lexemes)
        sections := sectionsOf (entriesOf dialect lexemes)
        current := none } := by
  obtain ⟨moves, hf⟩ := @moves_reading dialect lexemes
  rw [layout_finishSection hf, layout_moves moves (ordered_of_none rfl), Layout.foldl_add]
  rfl

end Draft

lemma takeAction_cons {part parts} (h : part.isAction = false) :
    takeAction (part :: parts) = ((takeAction parts).1, part :: (takeAction parts).2) := by
  cases part with
  | action a => cases h
  | _ => rfl

/-- The first action is taken from among parts, if there is one. -/
lemma takeAction_cases (parts : List Part) :
    (takeAction parts = (none, parts) ∧ ∀ part ∈ parts, part.isAction = false) ∨
      ∃ before a after, parts = before ++ .action a :: after ∧
        takeAction parts = (some a, before ++ after) ∧ ∀ part ∈ before, part.isAction = false := by
  induction parts with
  | nil => exact .inl ⟨rfl, List.forall_mem_nil _⟩
  | cons part parts ih =>
    cases hp : part.isAction with
    | true =>
      cases part with
      | action a => exact .inr ⟨[], a, parts, rfl, rfl, List.forall_mem_nil _⟩
      | _ => cases hp
    | false =>
      rw [takeAction_cons hp]
      obtain ⟨e, kept⟩ | ⟨before, a, after, rfl, e, kept⟩ := ih
      · exact .inl ⟨by rw [e], List.forall_mem_cons.2 ⟨hp, kept⟩⟩
      · exact .inr ⟨part :: before, a, after, rfl, by rw [e]; rfl,
          List.forall_mem_cons.2 ⟨hp, kept⟩⟩

variable {dialect : Dialect} {lexemes : List Lexeme}

lemma sections_assemble :
    (assemble dialect lexemes).story.sections =
      (Draft.reading dialect lexemes).finishSection.sections :=
  rfl

lemma introducedBy_assemble :
    (assemble dialect lexemes).story.IntroducedBy
      (Draft.reading dialect lexemes).finishSection.description := by
  have hsettings : (assemble dialect lexemes).story.settings =
      (takeAction (Draft.reading dialect lexemes).finishSection.description).1.getD
        (.setting .empty) := rfl
  have hdescription : (assemble dialect lexemes).story.description =
      (takeAction (Draft.reading dialect lexemes).finishSection.description).2 := rfl
  obtain ⟨e, kept⟩ | ⟨before, a, after, he, e, kept⟩ :=
    takeAction_cases (Draft.reading dialect lexemes).finishSection.description
  · exact .inl ⟨by rw [hsettings, e]; rfl, by rw [hdescription, e], kept⟩
  · refine .inr ⟨before, after, ?_, by rw [hdescription, e], kept⟩
    rw [he, hsettings, e]
    rfl

/-- The sections are those of the entries, and the description is what belongs to no section. -/
lemma laidOut_reading :
    (assemble dialect lexemes).story.sections.map Section.laidOut =
        sectionsOf (entriesOf dialect lexemes) ∧
      layOut (Draft.reading dialect lexemes).finishSection.description =
        descriptionOf (entriesOf dialect lexemes) := by
  obtain ⟨-, hf⟩ := @Draft.moves_reading dialect lexemes
  have hlayout := @Draft.layout_reading dialect lexemes
  rw [Draft.layout_of_none (Draft.frame_finishSection.trans hf)] at hlayout
  exact ⟨congrArg Layout.sections hlayout, congrArg Layout.description hlayout⟩

/--
Every part of a story stands for one entry of its source and every entry for one part, in the order
of the source: with branches laid out, the sections are those of the entries, with the content that
belongs to them, and the content that belongs to no section is the description, where the first
action is taken for the settings.
-/
theorem contents_assemble (dialect : Dialect) (lexemes : List Lexeme) :
    let story := (assemble dialect lexemes).story
    let entries := entriesOf dialect lexemes
    story.sections.map Section.laidOut = sectionsOf entries ∧
      ∃ parts, story.IntroducedBy parts ∧ layOut parts = descriptionOf entries := by
  obtain ⟨sections, description⟩ := @laidOut_reading dialect lexemes
  exact ⟨sections, _, introducedBy_assemble, description⟩

/-- The settings and the parts of a story are the contents of its entries, up to empty settings. -/
lemma perm_everything :
    ∃ unset ⊆ [.action (.setting .empty)],
      ((assemble dialect lexemes).story.everything.map alone).Perm
        (unset ++ (entriesOf dialect lexemes).flatMap Entry.contents) := by
  obtain ⟨hsections, hdescription⟩ := @laidOut_reading dialect lexemes
  have shared := @perm_contents (entriesOf dialect lexemes)
  have hstory : (assemble dialect lexemes).story.everything.map alone =
      .action (assemble dialect lexemes).story.settings ::
        (layOut (assemble dialect lexemes).story.description ++
          (sectionsOf (entriesOf dialect lexemes)).flatMap Section.parts) := by
    rw [← hsections, ← layOut_sections, ← layOut_append]
    rfl
  rw [hstory]
  obtain ⟨e, e', -⟩ | ⟨before, after, e, e', -⟩ := @introducedBy_assemble dialect lexemes
  · refine ⟨_, List.Subset.refl _, ?_⟩
    rw [e, e', hdescription]
    exact shared.cons _
  · refine ⟨[], List.nil_subset _, .trans ?_ shared⟩
    rw [e', ← hdescription, e, layOut_append, layOut_append]
    exact (List.perm_middle.append_right _).symm

section Sources

variable {s : Section} {part : Part}

lemma laidOut_mem (hs : s ∈ (assemble dialect lexemes).story.sections) :
    s.laidOut ∈ sectionsOf (entriesOf dialect lexemes) :=
  laidOut_reading.1 ▸ List.mem_map_of_mem hs

lemma exists_entry_of_description
    (h : part ∈ preorderAll (assemble dialect lexemes).story.description) :
    ∃ e ∈ entriesOf dialect lexemes, e.isTurn = false ∧ part.alone ∈ e.contents := by
  obtain ⟨top, htop, hpart⟩ := mem_preorderAll.1 h
  have hmem := mem_preorderAll.2 ⟨top, introducedBy_assemble.subset htop, hpart⟩
  exact mem_descriptionOf (laidOut_reading.2 ▸ List.mem_map_of_mem hmem)

lemma exists_entry_of_section (hs : s ∈ (assemble dialect lexemes).story.sections)
    (h : part ∈ preorderAll s.parts) :
    ∃ e ∈ entriesOf dialect lexemes, part.alone ∈ e.contents := by
  obtain ⟨made, parts, hmade, e, hparts⟩ := mem_sectionsOf (laidOut_mem hs)
  have hmem : part.alone ∈ s.laidOut.parts := List.mem_map_of_mem h
  rw [e] at hmem
  cases List.mem_append.1 hmem with
  | inl hmem => exact ⟨_, hmade, hmem⟩
  | inr hmem => exact (hparts _ hmem).imp fun _ he => he.imp_right And.right

/-- Every part of a story stands for an entry. -/
lemma exists_entry (h : part ∈ preorderAll (assemble dialect lexemes).story.parts) :
    ∃ e ∈ entriesOf dialect lexemes, part.alone ∈ e.contents := by
  rw [Story.parts, preorderAll_append] at h
  cases List.mem_append.1 h with
  | inl h => exact (exists_entry_of_description h).imp fun _ he => he.imp_right And.right
  | inr h =>
    obtain ⟨top, htop, hpart⟩ := mem_preorderAll.1 h
    obtain ⟨s, hs, htop⟩ := List.mem_flatMap.1 htop
    exact exists_entry_of_section hs (mem_preorderAll.2 ⟨top, htop, hpart⟩)

end Sources

end Markup

end Gamebook
