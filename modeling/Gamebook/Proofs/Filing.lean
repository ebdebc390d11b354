import Gamebook.Proofs.Contents
import Gamebook.Proofs.LexemeOrder

/-!
# Filing

A link, image or comment is filed under the headings that stop before it in the source: the last of
them that is a title or starts a section decides where. One that stands inside of a heading is not
under this heading. Main definitions: `turnsAbove`, `Story.FilesUnder`. Main statement:
`lexemesOf_in_order`.
-/

namespace Gamebook

namespace Markup

/-- Whether a token is a heading. -/
def Token.isHeading : Token → Bool
  | heading .. => true
  | _ => false

/-- Whether an entry is the start of a section. -/
def Entry.isStart : Entry → Bool
  | start _ => true
  | _ => false

lemma Token.of_isInset {t : Token} (h : t.isInset = true) :
    t.isBreak = false ∧ t.isText = false ∧ t.isHeading = false := by
  cases t with
  | link | image | comment => exact ⟨rfl, rfl, rfl⟩
  | _ => cases h

lemma Token.of_isHeading {t : Token} (h : t.isHeading = true) :
    t.isBreak = false ∧ t.isText = false ∧ t.isInset = false := by
  cases t with
  | heading => exact ⟨rfl, rfl, rfl⟩
  | _ => cases h

/-- The title or the start of a section that a lexeme is. -/
def Lexeme.turn? (dialect : Dialect) (l : Lexeme) : Option Entry :=
  match l.token with
  | .heading level text anchor =>
    (some (headingEntry dialect level (.ofList text) anchor)).filter Entry.isTurn
  | _ => none

lemma Lexeme.turn?_eq_none {dialect : Dialect} {l : Lexeme} (h : l.token.isHeading = false) :
    l.turn? dialect = none := by
  unfold turn?
  split
  · next ht =>
    rw [ht] at h
    cases h
  · rfl

/-- The titles and starts of sections among lexemes that stop before an offset. -/
def turnsAbove (dialect : Dialect) (offset : Nat) (lexemes : List Lexeme) : List Entry :=
  (lexemes.filter (·.span.stop ≤ offset)).filterMap (·.turn? dialect)

end Markup

open Markup in
/--
Whether a part is filed under the last of some titles and starts of sections: in the section that is
started, or else in the description.
-/
def Story.FilesUnder (story : Story) (turns : List Entry) (part : Part) : Prop :=
  match turns.getLast? with
  | some (.start made) =>
    ∃ s, story.sections[turns.countP Entry.isStart - 1]? = some s ∧ s.id = made.id ∧
      s.heading = made.heading ∧ part ∈ Part.layOut s.parts
  | _ => part ∈ Part.layOut story.description

namespace Markup

/-- Whether entries put a part under the last of some titles and starts of sections. -/
def PutsUnder (es turns : List Entry) (part : Part) : Prop :=
  match turns.getLast? with
  | some (.start made) =>
    ∃ parts, part ∈ parts ∧ (sectionsOf es)[turns.countP Entry.isStart - 1]? =
      some { made with parts := made.parts ++ parts }
  | _ => part ∈ descriptionOf es

section Entries

variable {es rest : List Entry} {e : Entry} {p : Part}

/-- Content before any title or section is content up to the next one. -/
lemma mem_contentsAhead_append (hes : ∀ e ∈ es, e.isTurn = false) (h : p ∈ contentsAhead rest) :
    p ∈ contentsAhead (es ++ rest) := by
  induction es with
  | nil => exact h
  | cons e es ih =>
    obtain ⟨he, hes⟩ := List.forall_mem_cons.1 hes
    rw [List.cons_append, contentsAhead_cons he]
    exact List.mem_append_right _ (ih hes)

lemma mem_titledContents_append (h : p ∈ titledContents rest) :
    p ∈ titledContents (es ++ rest) := by
  induction es with
  | nil => exact h
  | cons e es ih =>
    cases e with
    | title => exact List.mem_append_right _ ih
    | _ => exact ih

/-- Each start of a section makes the section at its place. -/
lemma getElem?_sectionsOf {made} :
    (sectionsOf (es ++ .start made :: rest))[es.countP Entry.isStart]? =
      some { made with parts := made.parts ++ contentsAhead rest } := by
  induction es with
  | nil => rfl
  | cons e es ih =>
    cases e with
    | start made' =>
      rw [List.countP_cons_of_pos rfl]
      exact ih
    | _ =>
      rw [List.countP_cons_of_neg (by exact Bool.false_ne_true)]
      exact ih

/-- Entries up to the last title or start of a section, and those after it. -/
lemma exists_lastTurn {t} (h : (es.filter Entry.isTurn).getLast? = some t) :
    ∃ before after, es = before ++ t :: after ∧ (∀ e ∈ after, e.isTurn = false) ∧
      t.isTurn = true ∧ (es.filter Entry.isTurn).countP Entry.isStart =
        before.countP Entry.isStart + [t].countP Entry.isStart := by
  obtain ⟨turns, hturns⟩ := List.getLast?_eq_some_iff.1 h
  obtain ⟨first, last, rfl, hfirst, hlast⟩ := List.filter_eq_append_iff.1 hturns
  obtain ⟨more, after, rfl, hmore, ht, hafter⟩ := List.filter_eq_cons_iff.1 hlast
  refine ⟨first ++ more, after, (List.append_assoc _ _ _).symm, ?_, ht, ?_⟩
  · intro e he
    exact Bool.eq_false_iff.2 fun hturn => List.filter_eq_nil_iff.1 hafter e he hturn
  · have hstart (e : Entry) : (e.isStart && e.isTurn) = e.isStart := by cases e <;> rfl
    have hnone : more.countP Entry.isStart = 0 := by
      refine List.countP_eq_zero.2 fun e he hs => hmore e he ?_
      rw [← hstart, Bool.and_eq_true] at hs
      exact hs.2
    rw [hturns, List.countP_append, ← hfirst, List.countP_filter, List.countP_append, hnone]
    simp only [hstart, Nat.add_zero]

/-- The content of an entry is put into the section that is started last, or else into the
description. -/
lemma putsUnder (he : e.isTurn = false) (hp : p ∈ e.contents) :
    PutsUnder (es ++ e :: rest) (es.filter Entry.isTurn) p := by
  have hahead : p ∈ contentsAhead (e :: rest) := by
    rw [contentsAhead_cons he]
    exact List.mem_append_left _ hp
  unfold PutsUnder
  split
  · next made hlast =>
    obtain ⟨before, after, rfl, hafter, -, hcount⟩ := exists_lastTurn hlast
    refine ⟨_, mem_contentsAhead_append hafter hahead, ?_⟩
    rw [hcount, List.append_assoc]
    exact getElem?_sectionsOf
  · next hlast =>
    cases h : (es.filter Entry.isTurn).getLast? with
    | none =>
      have hes : ∀ e ∈ es, e.isTurn = false := fun e he =>
        Bool.eq_false_iff.2 (List.filter_eq_nil_iff.1 (List.getLast?_eq_none_iff.1 h) e he)
      exact List.mem_append_left _ (mem_contentsAhead_append hes hahead)
    | some t =>
      obtain ⟨before, after, rfl, hafter, hturn, -⟩ := exists_lastTurn h
      cases t with
      | title =>
        rw [List.append_assoc]
        exact List.mem_append_right _ (mem_titledContents_append
          (List.mem_append_left _ (mem_contentsAhead_append hafter hahead)))
      | start made => exact absurd h (hlast made)
      | _ => cases hturn

end Entries

section Lexemes

variable {dialect : Dialect} {before : Option Token} {isOpen : Bool} {l : Lexeme}
  {lexemes rest : List Lexeme}

lemma isTurn_codeEntry {code span} : (codeEntry isOpen code span).isTurn = false := by
  unfold codeEntry
  split
  · rfl
  · rfl
  · split <;> rfl
  · split <;> rfl
  · rfl

/-- What is no heading adds no title and starts no section. -/
lemma isTurn_entryOf? {e} (hl : l.token.isHeading = false)
    (h : entryOf? dialect before isOpen l rest = some e) : e.isTurn = false := by
  have hrun {run} (h : (if before.any Token.isRunning then none
      else (paragraphOf? run).map Entry.part) = some e) : e.isTurn = false := by
    split at h
    · cases h
    · obtain ⟨_, -, rfl⟩ := Option.map_eq_some_iff.1 h
      rfl
  unfold entryOf? at h
  split at h
  · next ht =>
    rw [ht] at hl
    cases hl
  · exact hrun h
  · exact hrun h
  · cases h
  · cases h
    rfl
  · cases h
    rfl
  · cases h
    exact isTurn_codeEntry
  · cases h
    rfl
  · split at h <;> cases h
    rfl

/-- A lexeme adds a title or the start of a section exactly when it is one. -/
lemma filter_isTurn_entryOf? :
    (entryOf? dialect before isOpen l rest).toList.filter Entry.isTurn =
      (l.turn? dialect).toList := by
  cases hl : l.token.isHeading with
  | true =>
    unfold entryOf? Lexeme.turn?
    split
    · next level text anchor ht =>
      simp only [ht]
      cases h : (headingEntry dialect level (.ofList text) anchor).isTurn <;>
        simp [Option.filter, h]
    all_goals
      next ht =>
        rw [ht] at hl
        cases hl
  | false =>
    rw [Lexeme.turn?_eq_none hl]
    refine List.filter_eq_nil_iff.2 fun e he => ?_
    rw [isTurn_entryOf? hl (Option.mem_toList.1 he)]
    exact Bool.false_ne_true

/-- The entries of the first lexemes, in which the titles and starts of sections are theirs. -/
lemma exists_entries_append :
    ∃ es isOpen', entriesFrom dialect before isOpen (lexemes ++ rest) =
        es ++ entriesFrom dialect ((lexemes.getLast?.map Lexeme.token).or before) isOpen' rest ∧
      es.filter Entry.isTurn = lexemes.filterMap (·.turn? dialect) := by
  induction lexemes generalizing before isOpen with
  | nil => exact ⟨[], isOpen, rfl, rfl⟩
  | cons l lexemes ih =>
    obtain ⟨es, isOpen', hes, hturns⟩ :=
      @ih (some l.token) (leavesOpen isOpen l (lexemes ++ rest))
    refine ⟨(entryOf? dialect before isOpen l (lexemes ++ rest)).toList ++ es, isOpen', ?_, ?_⟩
    · rw [List.cons_append, entriesFrom, hes, List.append_assoc, List.getLast?_cons]
      cases lexemes.getLast? <;> rfl
    · rw [List.filter_append, filter_isTurn_entryOf?, hturns, List.filterMap_cons]
      cases l.turn? dialect <;> rfl

/-- What a link, image or comment adds is the same whether a condition is open or not, and is no
action. -/
lemma entryOf?_inset {part} (hl : l.token.isInset = true)
    (h : entryOf? dialect before false l rest = some (.part part)) :
    entryOf? dialect before isOpen l rest = some (.part part) ∧ part.isAction = false := by
  unfold entryOf? at h ⊢
  split at h
  · next ht => rw [ht] at hl; cases hl
  · next ht => rw [ht] at hl; cases hl
  · next ht => rw [ht] at hl; cases hl
  · next ht => rw [ht] at hl; cases hl
  · cases h
    exact ⟨rfl, rfl⟩
  · cases h
    exact ⟨rfl, rfl⟩
  · next ht => rw [ht] at hl; cases hl
  · next ht => rw [ht] at hl; cases hl
  · refine ⟨h, ?_⟩
    split at h <;> cases h
    rfl

end Lexemes

section Source

variable {dialect : Dialect} {source : List Char} {l : Lexeme} {before after : List Lexeme}

/-- A heading before a link, image or comment stops before it, and one after it stops later. -/
lemma heading_stop {h : Lexeme} (hlexemes : lexemesOf source = before ++ l :: after)
    (hl : l.token.isInset = true) (hh : h.token.isHeading = true) :
    (h ∈ before → h.span.stop ≤ l.span.start) ∧ (h ∈ after → l.span.start < h.span.stop) := by
  obtain ⟨horder, hends⟩ := @reached_lexemesOf source
  obtain ⟨hbreak, htext, -⟩ := Token.of_isInset hl
  obtain ⟨hbreak', htext', hinset⟩ := Token.of_isHeading hh
  have hshown : (lexemesOf source).filter (!·.token.isBreak) =
      before.filter (!·.token.isBreak) ++ l :: after.filter (!·.token.isBreak) := by
    rw [hlexemes, List.filter_append, List.filter_cons_of_pos (by rw [hbreak]; rfl)]
  have hkeep : (!h.token.isBreak) = true := by rw [hbreak']; rfl
  rw [hshown] at horder hends
  obtain ⟨-, hrest, hcross⟩ := List.pairwise_append.1 horder
  constructor
  · intro hbefore
    obtain hin | ⟨-, hstop⟩ :=
      hcross h (List.mem_filter.2 ⟨hbefore, hkeep⟩) l List.mem_cons_self
    · exact absurd hin.inset (by rw [hinset]; exact Bool.false_ne_true)
    · exact hstop htext' htext
  · intro hafter
    have hmem : h ∈ after.filter (!·.token.isBreak) := List.mem_filter.2 ⟨hafter, hkeep⟩
    obtain hin | ⟨hstart, -⟩ := (List.pairwise_cons.1 hrest).1 h hmem
    · have hspan := (hends l (List.mem_append_right _ List.mem_cons_self)).span htext
      exact Nat.lt_of_lt_of_le hspan.1 hin.stop
    · have hspan := (hends h (List.mem_append_right _ (List.mem_cons_of_mem _ hmem))).span htext'
      exact Nat.lt_of_le_of_lt hstart hspan.1

/-- A heading comes before a link, image or comment exactly when it stops before that. -/
lemma heading_mem_before_iff {h : Lexeme} (hlexemes : lexemesOf source = before ++ l :: after)
    (hl : l.token.isInset = true) (hmem : h ∈ lexemesOf source)
    (hh : h.token.isHeading = true) : h ∈ before ↔ h.span.stop ≤ l.span.start := by
  obtain ⟨hbefore, hafter⟩ := heading_stop hlexemes hl hh
  refine ⟨hbefore, fun hstop => ?_⟩
  rw [hlexemes, List.mem_append, List.mem_cons] at hmem
  obtain hmem | rfl | hmem := hmem
  · exact hmem
  · rw [(Token.of_isHeading hh).2.2] at hl
    cases hl
  · exact absurd hstop (Nat.not_le.2 (hafter hmem))

/-- The titles and starts of sections before a link, image or comment are those above it. -/
lemma turnsAbove_eq (hlexemes : lexemesOf source = before ++ l :: after)
    (hl : l.token.isInset = true) :
    turnsAbove dialect l.span.start (lexemesOf source) = before.filterMap (·.turn? dialect) := by
  have hbefore : (before.filter (·.span.stop ≤ l.span.start)).filterMap (·.turn? dialect) =
      before.filterMap (·.turn? dialect) := by
    rw [List.filterMap_filter]
    refine List.filterMap_congr fun h hmem => ?_
    cases hh : h.token.isHeading with
    | true => rw [if_pos (decide_eq_true ((heading_stop hlexemes hl hh).1 hmem))]
    | false => rw [Lexeme.turn?_eq_none hh, ite_self]
  have hafter : ((l :: after).filter (·.span.stop ≤ l.span.start)).filterMap (·.turn? dialect) =
      [] := by
    refine List.filterMap_eq_nil_iff.2 fun h hmem => ?_
    obtain ⟨hmem, hstop⟩ := List.mem_filter.1 hmem
    cases hh : h.token.isHeading with
    | true =>
      obtain rfl | hmem := List.mem_cons.1 hmem
      · rw [(Token.of_isInset hl).2.2] at hh
        cases hh
      · exact absurd (of_decide_eq_true hstop)
          (Nat.not_le.2 ((heading_stop hlexemes hl hh).2 hmem))
    | false => exact Lexeme.turn?_eq_none hh
  rw [turnsAbove, hlexemes, List.filter_append, List.filterMap_append, hbefore, hafter,
    List.append_nil]

/-- What is no action is left in the description when the settings are taken. -/
lemma mem_layOut_description {story : Story} {parts part} (h : story.IntroducedBy parts)
    (hp : part ∈ Part.layOut parts) (ha : part.isAction = false) :
    part ∈ Part.layOut story.description := by
  obtain ⟨-, e, -⟩ | ⟨before, after, rfl, e, -⟩ := h
  · rwa [e]
  · have hsettings : Part.layOut [.action story.settings] = [.action story.settings] :=
      Part.layOut_of_isFlat rfl
    rw [← List.singleton_append, Part.layOut_append, Part.layOut_append, hsettings, List.mem_append,
      List.mem_append, List.mem_singleton] at hp
    rw [e, Part.layOut_append, List.mem_append]
    obtain hp | rfl | hp := hp
    · exact .inl hp
    · cases ha
    · exact .inr hp

/-- A story files what is no action where the entries put it. -/
lemma filesUnder_of_putsUnder {lexemes turns part}
    (h : PutsUnder (entriesOf dialect lexemes) turns part) (ha : part.isAction = false) :
    (assemble dialect lexemes).story.FilesUnder turns part := by
  obtain ⟨hsections, hdescription⟩ := @laidOut_reading dialect lexemes
  unfold PutsUnder at h
  rw [← hsections, ← hdescription] at h
  rw [Story.FilesUnder]
  split
  · next made hlast =>
    rw [hlast] at h
    obtain ⟨parts, hpart, hsection⟩ := h
    rw [List.getElem?_map] at hsection
    obtain ⟨s, hs, hmade⟩ := Option.map_eq_some_iff.1 hsection
    have hid : s.laidOut.id = made.id := by rw [hmade]
    have hheading : s.laidOut.heading = made.heading := by rw [hmade]
    have hfiled : part ∈ s.laidOut.parts := by
      rw [hmade]
      exact List.mem_append_right _ hpart
    exact ⟨s, hs, hid, hheading, hfiled⟩
  · next hlast =>
    split at h
    · next made hstart => exact absurd hstart (hlast made)
    · exact mem_layOut_description introducedBy_assemble h ha

/-- What a link, image or comment adds is filed under the titles and section starts above it. -/
lemma filesUnder_assemble {part} (hlexemes : lexemesOf source = before ++ l :: after)
    (hl : l.token.isInset = true)
    (he : entryOf? dialect (before.getLast?.map Lexeme.token) false l after = some (.part part)) :
    (assemble dialect (lexemesOf source)).story.FilesUnder
      (turnsAbove dialect l.span.start (lexemesOf source)) part := by
  obtain ⟨es, isOpen, hes, hturns⟩ := @exists_entries_append dialect none false before (l :: after)
  obtain ⟨hentry, haction⟩ := @entryOf?_inset dialect _ isOpen l after part hl he
  rw [← hlexemes, Option.or_none, entriesFrom, hentry] at hes
  rw [turnsAbove_eq hlexemes hl, ← hturns]
  refine filesUnder_of_putsUnder ?_ haction
  rw [entriesOf, hes]
  exact putsUnder rfl List.mem_cons_self

end Source

/--
The lexemes of every source, breaks left aside, come in the order of their starts, but for links,
images and comments inside of a heading, link or image, which come before it. So a heading comes
before a link, image or comment exactly when it stops before that, and these are filed under the
headings above them, not under one that they are in.
-/
theorem lexemesOf_in_order (dialect : Dialect) (source : List Char) :
    let lexemes := lexemesOf source
    (lexemes.filter (!·.token.isBreak)).Pairwise
        (fun l later => l.span.start ≤ later.span.start ∨ l.LiesIn later) ∧
      ∀ before l after, lexemes = before ++ l :: after → l.token.isInset = true →
        (∀ h ∈ lexemes, h.token.isHeading = true → (h ∈ before ↔ h.span.stop ≤ l.span.start)) ∧
          ∀ part, entryOf? dialect (before.getLast?.map Lexeme.token) false l after =
              some (.part part) →
            (assemble dialect lexemes).story.FilesUnder (turnsAbove dialect l.span.start lexemes)
              part := by
  refine ⟨(@reached_lexemesOf source).1.imp ?_, fun before l after hlexemes hl => ⟨?_, ?_⟩⟩
  · rintro l later (hin | ⟨hstart, -⟩)
    · exact .inr hin
    · exact .inl hstart
  · exact fun h hmem hh => heading_mem_before_iff hlexemes hl hmem hh
  · exact fun part he => filesUnder_assemble hlexemes hl he

/-- A cave whose heading has a way back in it. -/
def caveMouth : List Char :=
  "## Hall\n\n## Cave [back](#hall)\n".toList

/-- The lexemes of the cave. -/
lemma lexemesOf_caveMouth :
    lexemesOf caveMouth =
      [⟨.heading 2 "Hall".toList none, ⟨0, 8⟩, false, false⟩,
        ⟨.link "back".toList "#hall".toList, ⟨17, 30⟩, false, false⟩,
        ⟨.heading 2 "Cave".toList none, ⟨9, 31⟩, false, false⟩] := by
  decide +kernel

/-- The way back comes before the heading that it is in, and is filed in the hall. -/
theorem lexemesOf_in_order_caveMouth :
    ∃ before l after, lexemesOf caveMouth = before ++ l :: after ∧ l.token.isInset = true ∧
      (∀ h ∈ lexemesOf caveMouth, h.token.isHeading = true →
        (h ∈ before ↔ h.span.stop ≤ l.span.start)) ∧
      ∃ s, (assemble .chapter (lexemesOf caveMouth)).story.sections[0]? = some s ∧ s.id = "hall" ∧
        .link ⟨"back", "#hall", none⟩ ∈ Part.layOut s.parts := by
  have horder := lexemesOf_in_order .chapter caveMouth
  rw [lexemesOf_caveMouth] at horder ⊢
  obtain ⟨hheadings, hfiled⟩ := horder.2 [_] _ [_] rfl rfl
  refine ⟨[_], _, [_], rfl, rfl, hheadings, ?_⟩
  obtain ⟨s, hs, hid, -, hpart⟩ := hfiled (.link ⟨"back", "#hall", none⟩) rfl
  refine ⟨s, hs, hid.trans ?_, hpart⟩
  decide +kernel

/-- The order of the lexemes is not that of their starts, and what is in the heading of a section is
not filed in that section. -/
theorem caveMouth_out_of_order :
    ¬ ((lexemesOf caveMouth).filter (!·.token.isBreak)).Pairwise
        (fun l later => l.span.start ≤ later.span.start) ∧
      (assemble .chapter (lexemesOf caveMouth)).story.sections.map
          (fun s => (s.id, s.links.filterMap Part.linkText?)) =
        [("hall", ["back"]), ("cave", [])] := by
  rw [lexemesOf_caveMouth]
  decide +kernel

end Markup

end Gamebook
