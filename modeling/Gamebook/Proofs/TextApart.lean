import Gamebook.Proofs.Contents
import Gamebook.Proofs.Events

/-!
# Text of different blocks

Two texts with the end of a block between them end up in different lexemes and in different
paragraphs of the story. The start of a block alone does not set them apart. Main definitions:
`textAt`, `LandsIn` (the lexeme that a text ends up in), `paragraphsOf`. Main statement:
`texts_apart`.
-/

namespace Gamebook

/-- Whether a part is a paragraph. -/
def Part.isParagraph : Part → Bool
  | paragraph .. => true
  | _ => false

/-- The paragraphs of a story, those in the branches of conditions included. -/
def Story.paragraphs (story : Story) : List Part :=
  story.everything.filter Part.isParagraph

namespace Markup

/-- The paragraphs that lexemes make up: one for each run of texts and ends of lines, which starts
before the lexemes if the lexeme before them is one of these. -/
def paragraphsFrom (inRun : Bool) : List Lexeme → List Part
  | [] => []
  | l :: rest =>
    (if l.token.isRunning && !inRun then (paragraphOf? (runOf (l :: rest))).toList else []) ++
      paragraphsFrom l.token.isRunning rest

/-- The paragraphs that the lexemes of a document make up. -/
def paragraphsOf (lexemes : List Lexeme) : List Part :=
  paragraphsFrom false lexemes

section Paragraphs

variable {dialect : Dialect} {before : Option Token} {isOpen inRun : Bool} {l : Lexeme}
  {rest front back lexemes : List Lexeme}

/-- A run ends before what is no part of a paragraph. -/
lemma runOf_append (hl : l.token.isRunning = false) : runOf (front ++ l :: back) = runOf front := by
  induction front with
  | nil =>
    rw [List.nil_append, runOf, List.takeWhile_cons_of_neg (by rw [hl]; exact Bool.false_ne_true)]
    rfl
  | cons first front ih =>
    rw [runOf] at ih
    rw [List.cons_append, runOf, runOf, List.takeWhile_cons, List.takeWhile_cons, ih, runOf]

/-- What is no part of a paragraph sets paragraphs apart. -/
lemma paragraphsFrom_append (hl : l.token.isRunning = false) :
    paragraphsFrom inRun (front ++ l :: back) =
      paragraphsFrom inRun front ++ paragraphsOf back := by
  induction front generalizing inRun with
  | nil =>
    simp only [List.nil_append, paragraphsFrom, hl, Bool.false_and, Bool.false_eq_true, if_false]
    rfl
  | cons first front ih =>
    have hrun := @runOf_append l (first :: front) back hl
    rw [List.cons_append] at hrun
    rw [List.cons_append, paragraphsFrom, paragraphsFrom, hrun, ih, List.append_assoc]

/-- The paragraph of a run is a paragraph. -/
lemma filter_paragraphOf? {run : List Lexeme} :
    (((paragraphOf? run).map Entry.part).toList.flatMap Entry.contents).filter Part.isParagraph =
      (paragraphOf? run).toList := by
  cases e : paragraphOf? run with
  | none => rfl
  | some part =>
    obtain ⟨-, rfl⟩ := paragraph?_eq_some e
    rfl

/-- Only texts and ends of lines add paragraphs. -/
lemma filter_entryOf? :
    ((entryOf? dialect before isOpen l rest).toList.flatMap Entry.contents).filter
        Part.isParagraph =
      if l.token.isRunning && !before.any Token.isRunning then
        (paragraphOf? (runOf (l :: rest))).toList else [] := by
  have hrun : ((if before.any Token.isRunning then none
      else (paragraphOf? (runOf (l :: rest))).map Entry.part).toList.flatMap
        Entry.contents).filter Part.isParagraph =
      if true && !before.any Token.isRunning then (paragraphOf? (runOf (l :: rest))).toList
      else [] := by
    cases before.any Token.isRunning with
    | true => rfl
    | false => exact filter_paragraphOf?
  unfold entryOf?
  cases ht : l.token with
  | text text => exact hrun
  | softBreak => exact hrun
  | heading level text anchor =>
    simp only [headingEntry]
    split
    · rfl
    · split
      · obtain e | e := @parts_startOf dialect level (.ofList text) anchor
        · simp [Entry.contents, e, Token.isRunning]
        · simp [Entry.contents, e, Part.isParagraph, Token.isRunning]
      · rfl
  | code code =>
    simp only [codeEntry]
    split
    · rfl
    · rfl
    · split <;> rfl
    · split <;> rfl
    · rfl
  | comment text =>
    simp only
    split <;> rfl
  | _ => rfl

/-- The paragraphs among the contents of entries are those of the lexemes. -/
lemma filter_entriesFrom :
    ((entriesFrom dialect before isOpen lexemes).flatMap Entry.contents).filter Part.isParagraph =
      paragraphsFrom (before.any Token.isRunning) lexemes := by
  induction lexemes generalizing before isOpen with
  | nil => rfl
  | cons l rest ih =>
    rw [entriesFrom, List.flatMap_append, List.filter_append, ih, filter_entryOf?, paragraphsFrom]
    rfl

/-- Parts without their branches have the same paragraphs among them. -/
lemma filter_alone {parts : List Part} :
    (parts.map Part.alone).filter Part.isParagraph = parts.filter Part.isParagraph := by
  induction parts with
  | nil => rfl
  | cons part parts ih =>
    rw [List.map_cons, List.filter_cons, List.filter_cons, ih]
    cases part <;> rfl

/-- The paragraphs of a story are those of its lexemes, if maybe in another order. -/
theorem perm_paragraphs :
    (assemble dialect lexemes).story.paragraphs.Perm (paragraphsOf lexemes) := by
  obtain ⟨unset, hunset, perm⟩ := @perm_everything dialect lexemes
  have hnone : unset.filter Part.isParagraph = [] := by
    rw [List.filter_eq_nil_iff]
    intro part hpart
    rw [List.mem_singleton.1 (hunset hpart)]
    exact Bool.false_ne_true
  have hparagraphs := perm.filter Part.isParagraph
  rwa [filter_alone, List.filter_append, hnone, List.nil_append, entriesOf, filter_entriesFrom]
    at hparagraphs

end Paragraphs

/-- The text that is reported at a place among the events of a document. It is outside of headings,
links and images. -/
def textAt (source : List Char) (place : Nat) : Option (List Char) :=
  match (eventsOf source)[place]? with
  | some (.inline (.text chars _)) => some chars
  | _ => none

/-- The events between two places. -/
def eventsBetween (source : List Char) (first second : Nat) : List Event :=
  ((eventsOf source).take second).drop (first + 1)

/-- What is read of a document after a number of its events. -/
def readUpTo (source : List Char) (count : Nat) : Lexemes :=
  ((eventsOf source).take count).foldl (Event.apply (outlineOf source).2) .empty

/-- Whether the text at a place ends up in the lexeme at an index: it is the end of that lexeme, the
last one so far, when it is read, and it stays in it. -/
def LandsIn (source : List Char) (place index : Nat) (text : List Char) : Prop :=
  ∃ before after, (readUpTo source (place + 1)).done.length = index + 1 ∧
    (readUpTo source (place + 1)).done.head?.map Lexeme.token = some (.text (before ++ text)) ∧
      (lexemesOf source)[index]?.map Lexeme.token = some (.text (before ++ text ++ after))

section Places

variable {source : List Char} {place first second : Nat} {text text' : List Char}

lemma outside_readUpTo {count} : (readUpTo source count).Outside :=
  (Lexemes.Outside.foldl ⟨rfl, fun image => by cases image <;> rfl⟩).1

/-- The lexemes after some events are added to by the events after them. -/
lemma readUpTo_add {count more} :
    readUpTo source (count + more) =
      (((eventsOf source).drop count).take more).foldl (Event.apply (outlineOf source).2)
        (readUpTo source count) := by
  rw [readUpTo, readUpTo, ← List.foldl_append, List.take_add]

/-- More events add to what is read. -/
lemma extends_readUpTo {count more} :
    Extends (readUpTo source count).done (readUpTo source (count + more)).done := by
  rw [readUpTo_add]
  exact outside_readUpTo.foldl.2

/-- After all events there are the lexemes of the document. -/
lemma extends_lexemesOf {count} :
    Extends (readUpTo source count).done (lexemesOf source).reverse := by
  rw [lexemesOf_eq_foldl, List.reverse_reverse]
  have hall := @Lexemes.Outside.foldl (readUpTo source count) (outlineOf source).2
    ((eventsOf source).drop count) outside_readUpTo
  rw [readUpTo, ← List.foldl_append, List.take_append_drop] at hall
  exact hall.2

/-- The events between two places are read between them. -/
lemma readUpTo_between (h : first < second) :
    readUpTo source second = (eventsBetween source first second).foldl
      (Event.apply (outlineOf source).2) (readUpTo source (first + 1)) := by
  obtain ⟨more, rfl⟩ := Nat.exists_eq_add_of_le (Nat.succ_le_of_lt h)
  rw [eventsBetween, List.drop_take, Nat.add_sub_cancel_left]
  exact readUpTo_add

/-- A text is the end of the last lexeme right after it is read. -/
lemma done_of_textAt (h : textAt source place = some text) :
    ∃ before span quoted listed rest, (readUpTo source (place + 1)).done =
      ⟨.text (before ++ text), span, quoted, listed⟩ :: rest ∧
        (startsWithText (readUpTo source place).done = true →
          rest.length + 1 = (readUpTo source place).done.length) := by
  unfold textAt at h
  split at h
  · next chars span hevent =>
    cases h
    have hread : readUpTo source (place + 1) = (readUpTo source place).text text span := by
      rw [readUpTo, List.take_add_one, hevent, List.foldl_append]
      rfl
    rw [hread]
    exact outside_readUpTo.done_text
  · cases h

/-- Every text ends up in a lexeme. -/
lemma exists_landsIn (h : textAt source place = some text) :
    ∃ index, LandsIn source place index text := by
  obtain ⟨before, span, quoted, listed, rest, hdone, -⟩ := done_of_textAt h
  have hextends := @extends_lexemesOf source (place + 1)
  rw [hdone] at hextends
  obtain ⟨made, more, span', hlexemes⟩ := hextends.of_text
  refine ⟨rest.length, before, more, by rw [hdone]; rfl, by rw [hdone]; rfl, ?_⟩
  rw [List.reverse_eq_iff, List.reverse_append, List.reverse_cons, List.append_assoc] at hlexemes
  rw [hlexemes, List.getElem?_append_right (Nat.le_of_eq List.length_reverse)]
  simp

/-- A text ends up in the lexeme of a text before it if and only if only mute events are between
them. -/
lemma length_eq_iff (hlt : first < second) (h : textAt source first = some text)
    (h' : textAt source second = some text') :
    (readUpTo source (first + 1)).done.length = (readUpTo source (second + 1)).done.length ↔
      ∀ e ∈ eventsBetween source first second, e.isMute = true := by
  obtain ⟨before, span, quoted, listed, rest, hdone, -⟩ := done_of_textAt h
  obtain ⟨before', span', quoted', listed', rest', hdone', hsame⟩ := done_of_textAt h'
  have htext : startsWithText (readUpTo source (first + 1)).done = true := by rw [hdone]; rfl
  have hcases := @Lexemes.Outside.foldl_cases _ (outlineOf source).2
    (eventsBetween source first second) outside_readUpTo htext
  rw [← readUpTo_between hlt] at hcases
  obtain ⟨hmute, htext', hlength⟩ | ⟨hloud, hlonger⟩ := hcases
  · refine iff_of_true ?_ hmute
    rw [hdone', List.length_cons, hsame htext', hlength]
  · have hle := (@extends_readUpTo source second 1).length_le
    exact iff_of_false (Nat.ne_of_lt (Nat.lt_of_lt_of_le hlonger hle)) hloud

/-- Between two texts with the end of an enclosure between them there is a break. -/
lemma exists_break_between (hlt : first < second) (h : textAt source first = some text)
    (h' : textAt source second = some text')
    (hstop : ∃ e ∈ eventsBetween source first second, e.isStop = true) :
    ∃ front l back, lexemesOf source = front ++ l :: back ∧ l.token = .break ∧
      (readUpTo source (first + 1)).done.length ≤ front.length ∧
        front.length + 1 < (readUpTo source (second + 1)).done.length := by
  obtain ⟨e, hmem, he⟩ := hstop
  obtain ⟨between, between', hbetween⟩ := List.append_of_mem hmem
  obtain ⟨before, span, quoted, listed, rest, hdone, -⟩ := done_of_textAt h
  obtain ⟨before', span', quoted', listed', rest', hdone', -⟩ := done_of_textAt h'
  -- what is read of the document before the end of the enclosure
  let s := between.foldl (Event.apply (outlineOf source).2) (readUpTo source (first + 1))
  have hs : s.Outside ∧ Extends (readUpTo source (first + 1)).done s.done :=
    outside_readUpTo.foldl
  obtain ⟨l, front, hbreak, hl, hextends⟩ :=
    @Lexemes.exists_break_of_isStop s (outlineOf source).2 e he
  have hread : readUpTo source second =
      between'.foldl (Event.apply (outlineOf source).2) (e.apply (outlineOf source).2 s) := by
    rw [readUpTo_between hlt, hbetween, List.foldl_append, List.foldl_cons]
  have hsecond : Extends (l :: front) (readUpTo source (second + 1)).done := by
    have hrest := (@Lexemes.Outside.foldl _ (outlineOf source).2 between'
      (@Lexemes.Outside.apply s (outlineOf source).2 e hs.1).1).2
    rw [← hread, hbreak] at hrest
    exact hrest.trans extends_readUpTo
  obtain ⟨back, hlexemes⟩ := (hsecond.trans extends_lexemesOf).of_break hl
  refine ⟨front.reverse, l, back.reverse, ?_, hl, ?_, ?_⟩
  · rw [List.reverse_eq_iff, List.reverse_append, List.reverse_cons, List.append_assoc] at hlexemes
    exact hlexemes
  · have hfirst := hs.2.trans hextends
    rw [hdone] at hfirst
    obtain ⟨made, more, span'', hmade⟩ := hfirst.of_text
    cases made with
    | nil =>
      cases hmade
      cases hl
    | cons l' made =>
      have hfront : front =
          made ++ ⟨.text (before ++ text ++ more), span'', quoted, listed⟩ :: rest :=
        (List.cons.inj hmade).2
      rw [hdone, List.length_reverse, hfront, List.length_append]
      exact Nat.le_add_left _ _
  · obtain ⟨made, hmade⟩ := hsecond.of_break hl
    cases made with
    | nil =>
      rw [hdone'] at hmade
      cases hmade
      cases hl
    | cons l' made =>
      rw [hmade, List.length_reverse, List.length_append, List.length_cons, List.length_cons]
      omega

end Places

/-- Two texts that are reported one after the other, outside of headings, links and images, end up
in the same lexeme if and only if nothing is reported between them but texts, starts of paragraphs,
items and quotes, and HTML that is no comment of the story. If the end of a paragraph, item or quote
is reported between them, there is a break between their lexemes, and every paragraph of the story
is made of lexemes before it or of lexemes after it. -/
theorem texts_apart {source : List Char} {first second : Nat} {text text' : List Char}
    (hlt : first < second) (h : textAt source first = some text)
    (h' : textAt source second = some text') :
    ∃ i j, LandsIn source first i text ∧ LandsIn source second j text' ∧
      (i = j ↔ ∀ e ∈ eventsBetween source first second, e.isMute = true) ∧
      ((∃ e ∈ eventsBetween source first second, e.isStop = true) →
        ∃ front l back, lexemesOf source = front ++ l :: back ∧ l.token = .break ∧
          i < front.length ∧ front.length < j ∧
            ∀ dialect, (assemble dialect (lexemesOf source)).story.paragraphs.Perm
              (paragraphsOf front ++ paragraphsOf back)) := by
  obtain ⟨i, before, after, hi, hi'⟩ := exists_landsIn h
  obtain ⟨j, before', after', hj, hj'⟩ := exists_landsIn h'
  refine ⟨i, j, ⟨before, after, hi, hi'⟩, ⟨before', after', hj, hj'⟩, ?_, fun hstop => ?_⟩
  · rw [← length_eq_iff hlt h h', hi, hj]
    exact (Nat.add_left_inj).symm
  · obtain ⟨front, l, back, hlexemes, hl, hfront, hback⟩ := exists_break_between hlt h h' hstop
    refine ⟨front, l, back, hlexemes, hl, by omega, by omega, fun dialect => ?_⟩
    have hrunning : l.token.isRunning = false := by rw [hl]; rfl
    have perm := @perm_paragraphs dialect (lexemesOf source)
    rwa [hlexemes, paragraphsOf, paragraphsFrom_append hrunning, ← hlexemes] at perm

/-- An item with a quote in it. -/
def openDoor : List Char :=
  "- Open\n\n  > the door\n\n  and enter\n".toList

/-- The end of a paragraph sets the text of the quote after it apart. -/
theorem texts_apart_openDoor :
    ∃ i j, LandsIn openDoor 2 i "Open".toList ∧ LandsIn openDoor 6 j "the door".toList ∧ i < j := by
  obtain ⟨i, j, hi, hj, -, hbreak⟩ := @texts_apart openDoor 2 6 "Open".toList "the door".toList
    (by decide) (by decide +kernel) (by decide +kernel)
  obtain ⟨front, -, -, -, -, hlt, hlt', -⟩ := hbreak (by decide +kernel)
  exact ⟨i, j, hi, hj, Nat.lt_trans hlt hlt'⟩

/-- An item with an item in it. -/
def torchAndRope : List Char :=
  "- torch\n  - rope\n".toList

/-- The start of an item does not set its text apart: both texts are in one lexeme. -/
theorem torchAndRope_run_together :
    textAt torchAndRope 1 = some "torch".toList ∧ textAt torchAndRope 3 = some "rope".toList ∧
      (∃ e ∈ eventsBetween torchAndRope 1 3, e.isStart = true) ∧
        LandsIn torchAndRope 1 0 "torch".toList ∧ LandsIn torchAndRope 3 0 "rope".toList := by
  refine ⟨by decide +kernel, by decide +kernel, by decide +kernel, ?_, ?_⟩
  · exact ⟨[], "rope".toList, by decide +kernel⟩
  · exact ⟨"torch".toList, [], by decide +kernel⟩

end Markup

end Gamebook
