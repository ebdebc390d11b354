import Gamebook.Proofs.PartText

/-!
# Lexemes of stories

The document of a plain story is read as the tokens of the story, in order; a flowchart adds nothing
but a break. Main definition: `Story.shown`. Main statement: `Story.lexemesOf_markdown`.
-/

namespace Gamebook

open Markup

namespace Section

/-- The level of the heading of a section and the parts that are written after it. -/
def outlined (dialect : Dialect) (s : Section) : Nat × List Part :=
  match s.shownParts? dialect with
  | some parts => (2, parts)
  | none => (3, s.parts)

/-- The tokens that a section is read as. -/
def shown (dialect : Dialect) (s : Section) : List Shown :=
  (.heading (s.outlined dialect).1 s.heading.toList (some s.id.toList), none) ::
    Part.shownAll (s.outlined dialect).2

/-- The text of a section is its heading and the text of the parts after it. -/
lemma markdown_eq {dialect} {s : Section} :
    s.markdown dialect = '#' :: (List.replicate ((s.outlined dialect).1 - 1) '#' ++
      ' ' :: (s.heading.toList ++ ' ' :: '<' :: noteText ('#' :: s.id.toList))) ++ ['\n', '\n'] ++
        Part.markdownAll dialect (s.outlined dialect).2 := by
  rw [markdown, outlined]
  cases s.shownParts? dialect <;> simp [noteText, List.replicate]

/-- The parts that are written after the heading of a plain section are plain. -/
lemma all_outlined {dialect} {s : Section} (h : s.isPlain dialect = true) :
    (s.outlined dialect).2.all (Part.isPlain dialect) = true := by
  rw [isPlain, Bool.and_eq_true] at h
  rw [outlined]
  cases e : s.shownParts? dialect with
  | none =>
    rw [e] at h
    exact h.2
  | some parts =>
    rw [e] at h
    exact h.2

/-- A heading has one of the two levels that sections are written with. -/
lemma outlined_level {dialect} {s : Section} :
    (s.outlined dialect).1 = 2 ∨ (s.outlined dialect).1 = 3 := by
  rw [outlined]
  cases s.shownParts? dialect with
  | none => exact .inr rfl
  | some parts => exact .inl rfl

/-- A plain section is read as its tokens. -/
lemma reads_markdown {dialect} {s : Section} (h : s.isPlain dialect = true) {ts} :
    Reads (Between ts) (s.markdown dialect) (Between (ts ++ s.shown dialect)) := by
  have hparts := all_outlined h
  rw [isPlain, Bool.and_eq_true, Bool.and_eq_true] at h
  have ht := Text.plain_of_isProse h.1.2
  have hid := Text.plain_of_isName h.1.1
  obtain ⟨level, hlevel, hmax⟩ : ∃ level, (s.outlined dialect).1 = level + 1 ∧ level < 6 := by
    obtain e | e := @outlined_level dialect s <;> rw [e]
    · exact ⟨1, rfl, by decide⟩
    · exact ⟨2, rfl, by decide⟩
  have hline : OneLine (s.heading.toList ++ ' ' :: '<' :: noteText ('#' :: s.id.toList)) :=
    (OneLine.of_plain ht).append (@OneLine.append [' ', '<', '!', '-', '-', '-', ' ', '#'] _
      (by decide) ((OneLine.of_plain hid).append (by decide)))
  have hfirst : ∀ c ∈ (s.heading.toList ++ ' ' :: '<' :: noteText ('#' :: s.id.toList)).head?,
      isSpace c = false := by
    intro c hc
    refine isSpace_head_of_plain ht c ?_
    rwa [List.head?_append_of_ne_nil _ ht.ne] at hc
  have hlast : (s.heading.toList ++ ' ' :: '<' :: noteText ('#' :: s.id.toList)).getLast? =
      some '>' := by
    simp [noteText, List.getLast?_cons, List.getLast?_append]
  have hheading := @Reads.heading ts
    [(.heading (level + 1) s.heading.toList (some s.id.toList), none)] _ level hmax hline hfirst
    (trimHeading_of_last hlast (by decide) (by decide)) fun offset span => .heading_note ht h.1.1
  have := hheading.append (Part.reads_markdownAll hparts)
  rw [markdown_eq, shown, hlevel, Nat.add_sub_cancel]
  simpa only [List.append_assoc, List.singleton_append] using this

end Section

namespace Markup

/-- Whether what is read, once it is finished, has some tokens, and after them at most a break. -/
def Completes (ts : List Shown) (o : Outline) : Prop :=
  ∀ stop, ∃ blocks afterBlank done,
    o.finish stop = ⟨[], blocks, none, afterBlank, none, []⟩ ∧
      Lexemes.empty.blocks [] false blocks.reverse = .idle done false false ∧
        (Adds [] ts done ∨ Adds [] (ts ++ [(.break, none)]) done)

/-- What is read between blocks has its tokens. -/
lemma Completes.of_between {ts o} (h : Between ts o) : Completes ts o := by
  intro stop
  cases h with
  | @top blocks afterBlank h =>
    obtain ⟨done, e, hadds, -⟩ := h [] rfl
    exact ⟨blocks, afterBlank, done, rfl, e, .inl hadds⟩
  | @listed start children tight items blocks afterBlank h =>
    obtain ⟨done, e, hadds, -⟩ := h tight ⟨start, stop⟩ [] rfl
    refine ⟨.list tight (items.reverse ++ [.item children.reverse ⟨start, stop⟩]) :: blocks,
      afterBlank, done, ?_, ?_, .inl hadds⟩
    · cases tight <;> simp [Outline.finish, Outline.closeLeaf, Outline.closeFrames,
        Outline.closeFrame, Outline.add]
    · rw [List.reverse_cons]
      exact e

/-- A flowchart after what is read has no token, but a break may come after it. -/
lemma Completes.of_flowchart {ts blocks afterBlank content span}
    (h : Yields false false false blocks.reverse ts) :
    Completes ts
      ⟨[], .fence flowchartInfo.toList content span :: blocks, none, afterBlank, none, []⟩ := by
  intro stop
  obtain ⟨done, e, hadds, -⟩ := h [] rfl
  have hblocks : Lexemes.empty.blocks [] false
      (.fence flowchartInfo.toList content span :: blocks).reverse =
        (Lexemes.idle done false false).pushBreak span := by
    have hinfo : Text.trim flowchartInfo.toList = flowchartInfo.toList := by decide
    rw [List.reverse_cons, Lexemes.blocks_append,
      show Lexemes.empty.blocks [] false blocks.reverse = .idle done false false from e,
      Lexemes.blocks, Lexemes.blocks, Lexemes.block]
    simp only [hinfo, if_true]
  -- a break is added unless there is one at the end already
  cases hdone : startsWithBreak done with
  | false =>
    rw [Lexemes.pushBreak_idle hdone] at hblocks
    exact ⟨_, afterBlank, _, rfl, hblocks, .inr (hadds.trans .cons)⟩
  | true =>
    have hpush : (Lexemes.idle done false false).pushBreak span = .idle done false false := by
      unfold startsWithBreak at hdone
      split at hdone
      · rfl
      · cases hdone
    rw [hpush] at hblocks
    exact ⟨_, afterBlank, _, rfl, hblocks, .inl hadds⟩

end Markup

namespace Story

variable {dialect : Dialect} {withFlowchart : Bool} {story : Story} {ts : List Shown}

/-- The tokens that the title is read as. -/
def titleShown (story : Story) : List Shown :=
  if story.title = "" then [] else [(.heading 1 story.title.toList none, none)]

/-- The tokens that the settings are read as. -/
def settingsShown (story : Story) : List Shown :=
  if story.settings.isEmpty then [] else Part.shown (.action story.settings)

/-- The tokens that a story is read as. -/
def shown (dialect : Dialect) (story : Story) : List Shown :=
  story.titleShown ++ story.settingsShown ++ Part.shownAll story.description ++
    story.sections.flatMap (·.shown dialect)

/-- The title is read as its tokens. -/
lemma reads_title (h : (story.title.isEmpty || Text.isProse story.title.toList) = true) :
    Reads (Between ts)
      (if story.title = "" then [] else "# ".toList ++ story.title.toList ++ ['\n', '\n'])
      (Between (ts ++ story.titleShown)) := by
  rw [titleShown]
  split
  · rw [List.append_nil]
    exact .nil fun _ => id
  · next hne =>
    have hprose : Text.isProse story.title.toList = true := by
      simpa [hne] using h
    have ht := Text.plain_of_isProse hprose
    have := @Reads.heading ts [(.heading 1 story.title.toList none, none)] _ 0 (by decide)
      (.of_plain ht) (isSpace_head_of_plain ht) (trimHeading_of_plain ht)
      fun offset span => .heading ht
    simpa using this

/-- The settings are read as their tokens. -/
lemma reads_settings (h : story.settings.isPlain = true) :
    Reads (Between ts)
      (if story.settings.isEmpty then [] else story.settings.markdown ++ ['\n', '\n'])
      (Between (ts ++ story.settingsShown)) := by
  rw [settingsShown]
  split
  · rw [List.append_nil]
    exact .nil fun _ => id
  · exact .action h

/-- The sections are read as their tokens. -/
lemma reads_sections {sections : List Section} (h : sections.all (·.isPlain dialect) = true) :
    Reads (Between ts) (sections.flatMap (·.markdown dialect))
      (Between (ts ++ sections.flatMap (·.shown dialect))) := by
  induction sections generalizing ts with
  | nil =>
    rw [List.flatMap_nil, List.flatMap_nil, List.append_nil]
    exact .nil fun _ => id
  | cons s sections ih =>
    rw [List.all_cons, Bool.and_eq_true] at h
    rw [List.flatMap_cons, List.flatMap_cons, ← List.append_assoc]
    exact (Section.reads_markdown h.1).append (ih h.2)

/-- The flowchart is read as nothing. -/
lemma reads_flowchart (h : story.sections.all (·.isPlain dialect) = true) :
    Reads (Between ts) (if withFlowchart then story.flowchartBlock else []) (Completes ts) := by
  cases withFlowchart with
  | false => exact .nil fun o ho => .of_between ho
  | true =>
    have hnotice : Reads (Between ts) (flowchartNotice.toList ++ ['\n']) (Between ts) := by
      refine .line (by decide) fun o start beforeBlank ho => ?_
      have := @Between.html ts [] o start beforeBlank ho " This chart is autogenerated -->".toList
        (by decide) fun span => .html (by decide)
      rwa [List.append_nil] at this
    have hfence := @Reads.fence ts _ flowchartInfo.toList (by decide) (by decide) (by decide)
      (enclosed_flowchart (List.all_eq_true.1 h))
    have hclosed : Reads (Between ts) _ (Completes ts) := hfence.imp (fun _ => id) fun o ho => by
      obtain ⟨blocks, span, afterBlank, hblocks, rfl⟩ := ho
      exact .of_flowchart hblocks
    have := hnotice.append hclosed
    simpa [flowchartBlock] using this

/-- The document of a plain story is read as the tokens of the story, with at most a break after
them. -/
theorem lexemesOf_markdown (h : story.isPlain dialect = true) :
    (lexemesOf (story.markdown dialect withFlowchart).toList).map Lexeme.shown =
      story.shown dialect ∨
      (lexemesOf (story.markdown dialect withFlowchart).toList).map Lexeme.shown =
        story.shown dialect ++ [(.break, none)] := by
  simp only [isPlain, Bool.and_eq_true] at h
  obtain ⟨⟨⟨⟨⟨htitle, hdescription⟩, hsettings⟩, -⟩, hsections⟩, -⟩ := h
  have hreads : Reads (Between []) (story.markdown dialect withFlowchart).toList
      (Completes (story.shown dialect)) := by
    rw [markdown, String.toList_ofList]
    exact ((((reads_title htitle).append (reads_settings hsettings)).append
      (Part.reads_markdownAll hdescription)).append (reads_sections hsections)).append
        (reads_flowchart hsections)
  obtain ⟨o, offset, ho, e⟩ := hreads .empty 0 [] (.top .nil)
  rw [List.append_nil] at e
  obtain ⟨blocks, afterBlank, done, hfinish, hdone, hadds⟩ :=
    ho (Text.byteSize (story.markdown dialect withFlowchart).toList)
  have hlexemes : lexemesOf (story.markdown dialect withFlowchart).toList = done.reverse := by
    rw [lexemesOf, outlineOf, linesOf, e, linesFrom, List.foldl_nil, hfinish]
    simp only [hdone]
    rfl
  rw [hlexemes]
  refine hadds.imp ?_ ?_ <;>
  · rintro ⟨ls, rfl, hls⟩
    rw [List.append_nil, List.reverse_reverse, hls]

end Story

end Gamebook
