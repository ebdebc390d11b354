import Gamebook.Proofs.Settings
import Gamebook.Proofs.WaysOn
import Mathlib.Data.List.Forall2

/-!
# Branches that are not taken

A branch that is not taken whenever its condition is decided might as well have other parts in it.
A story with a gap in the place of a branch can be filled with any parts. Two fillings make the same
screen from the same sections, as long as the gap is never come to; only the conditions that are
shown hold a copy of what the gap was filled with, and so does the section itself. Main definitions:
`Gap`, `Gap.isTaken`, `Gap.Shows`, `StoryGap`, `StoryGap.Alike`. Main statements:
`StoryGap.exists_fill`, so that any branch of a story can be a gap; `Gap.read_fill` and
`Gap.exists_read_fill`; `StoryGap.resolveNext_untaken`.
-/

namespace Gamebook

namespace Part

/-- A condition with the branch for an answer and the one for the other answer. -/
def answering (c : Condition) : (answer : Bool) → (branch other : List Part) → Part
  | true, branch, other => condition c branch other
  | false, branch, other => condition c other branch

/-- Of a condition the branch is read for which it is decided. -/
lemma read_answering {c : Condition} {answer branch other sheet g} :
    (answering c answer branch other).read sheet g =
      let (decision, g) := decideCondition c.expression sheet g
      let reading := readAll sheet g (if decision.holds = answer then branch else other)
      ⟨answering { c with audit := some decision.audit } answer branch other :: reading.parts,
        reading.sheet, reading.generator⟩ := by
  cases answer <;> cases h : (decideCondition c.expression sheet g).1.holds <;>
    simp [answering, read, h]

/-- Parts are read after the parts before them. -/
lemma readAll_append {sheet g} {parts rest : List Part} :
    readAll sheet g (parts ++ rest) =
      let first := readAll sheet g parts
      let second := readAll first.sheet first.generator rest
      ⟨first.parts ++ second.parts, second.sheet, second.generator⟩ := by
  induction parts generalizing sheet g with
  | nil => rfl
  | cons part parts ih => simp only [List.cons_append, readAll, ih, List.append_assoc]

end Part

/-- Readings that leave the same and show related parts. -/
structure Reading.Alike (R : Part → Part → Prop) (r s : Reading) : Prop where
  /-- The parts to show are related. -/
  parts : List.Forall₂ R r.parts s.parts
  /-- The leaves are the same. -/
  sheet : r.sheet = s.sheet
  /-- The generator is the same. -/
  generator : r.generator = s.generator

namespace Reading.Alike

variable {R S : Part → Part → Prop} {r s : Reading} {p q : Part} {sheet : Sheet} {g : Generator}

lemma refl [Std.Refl R] : Alike R r r :=
  ⟨List.forall₂_refl _, rfl, rfl⟩

lemma imp (h : Alike R r s) (hi : ∀ p q, R p q → S p q) : Alike S r s :=
  ⟨h.parts.imp hi, h.sheet, h.generator⟩

/-- A part may be replaced by one that is read alike, where the parts around it stay. -/
lemma around [Std.Refl R] {before after : List Part}
    (h : let first := Part.readAll sheet g before
      Alike R (p.read first.sheet first.generator) (q.read first.sheet first.generator)) :
    Alike R (Part.readAll sheet g (before ++ p :: after))
      (Part.readAll sheet g (before ++ q :: after)) := by
  obtain ⟨hparts, hsheet, hgenerator⟩ := h
  simp only [Part.readAll_append, Part.readAll, hsheet, hgenerator]
  refine ⟨?_, rfl, rfl⟩
  exact List.rel_append (List.forall₂_refl _) (List.rel_append hparts (List.forall₂_refl _))

end Reading.Alike

/-- A condition with a gap in the place of a branch, which is its own or one further inside. -/
inductive Gap where
  /-- The gap is the branch for an answer. -/
  | branch (c : Condition) (answer : Bool) (other : List Part)
  /-- The gap is in a part of the branch for an answer, with parts before and after it. -/
  | inside (c : Condition) (answer : Bool) (before : List Part) (gap : Gap) (after : List Part)
    (other : List Part)

namespace Gap

/-- The condition with some parts in the gap. -/
def fill (x : List Part) : Gap → Part
  | branch c answer other => .answering c answer x other
  | inside c answer before gap after other =>
    .answering c answer (before ++ gap.fill x :: after) other

/--
Whether reading the condition comes to the gap: all conditions on the way are decided for the branch
with the gap in it.
-/
def isTaken (sheet : Sheet) (g : Generator) : Gap → Bool
  | branch c answer _ => (decideCondition c.expression sheet g).1.holds == answer
  | inside c answer before gap _ _ =>
    let (decision, g) := decideCondition c.expression sheet g
    let reading := Part.readAll sheet g before
    decision.holds == answer && gap.isTaken reading.sheet reading.generator

/-- The condition with its audit. -/
def audited (audit : String) : Gap → Gap
  | branch c answer other => branch { c with audit := some audit } answer other
  | inside c answer before gap after other =>
    inside { c with audit := some audit } answer before gap after other

/-- The conditions around the gap, from the outermost to the innermost. -/
def around : Gap → List Gap
  | branch c answer other => [branch c answer other]
  | inside c answer before gap after other =>
    inside c answer before gap after other :: gap.around

/-- Whether the gap is the branch for an answer, and filled with it the condition is as asked. -/
def Opens (gap : Gap) (p : Part → Bool) (answer : Bool) (x : List Part) : Prop :=
  ∃ c other, branch c answer other ∈ gap.around ∧ p (.answering c answer x other)

mutual

/-- If a part has a condition somewhere in it, either branch of the condition can be left open. -/
lemma exists_fill {p : Part → Bool} (hp : ∀ part, p part → part.isCondition) (answer : Bool)
    {part : Part} (h : part.anywhere p = true) :
    ∃ (gap : Gap) (x : List Part), gap.fill x = part ∧ gap.Opens p answer x := by
  cases part with
  | condition c whenTrue whenFalse =>
    rw [Part.anywhere, Bool.or_eq_true, Bool.or_eq_true] at h
    rcases h with (h | h) | h
    · cases answer with
      | true => exact ⟨branch c true whenFalse, whenTrue, rfl, c, whenFalse, .head _, h⟩
      | false => exact ⟨branch c false whenTrue, whenFalse, rfl, c, whenTrue, .head _, h⟩
    · obtain ⟨before, gap, after, x, rfl, d, other, around, found⟩ := exists_fill_of hp answer h
      exact ⟨inside c true before gap after whenFalse, x, rfl, d, other, .tail _ around, found⟩
    · obtain ⟨before, gap, after, x, rfl, d, other, around, found⟩ := exists_fill_of hp answer h
      exact ⟨inside c false before gap after whenTrue, x, rfl, d, other, .tail _ around, found⟩
  | _ => cases hp _ h

/-- If parts have a condition somewhere in them, either branch of it can be left open. -/
lemma exists_fill_of {p : Part → Bool} (hp : ∀ part, p part → part.isCondition) (answer : Bool)
    {parts : List Part} (h : Part.anyOf p parts = true) :
    ∃ (before : List Part) (gap : Gap) (after x : List Part),
      before ++ gap.fill x :: after = parts ∧ gap.Opens p answer x := by
  cases parts with
  | nil => cases h
  | cons part parts =>
    rw [Part.anyOf, Bool.or_eq_true] at h
    rcases h with h | h
    · obtain ⟨gap, x, rfl, opens⟩ := exists_fill hp answer h
      exact ⟨[], gap, parts, x, rfl, opens⟩
    · obtain ⟨before, gap, after, x, rfl, opens⟩ := exists_fill_of hp answer h
      exact ⟨part :: before, gap, after, x, rfl, opens⟩

end

/-- The same part, or a condition around the gap with either of two fillings. -/
inductive Shows (gap : Gap) (x y : List Part) : Part → Part → Prop where
  /-- The parts are the same. -/
  | same (part : Part) : Shows gap x y part part
  /-- The parts are copies of a condition around the gap. -/
  | copy {inner : Gap} (audit : String) : inner ∈ gap.around →
    Shows gap x y ((inner.audited audit).fill x) ((inner.audited audit).fill y)

variable {gap : Gap} {x y : List Part} {p q : Part}

instance : Std.Refl (gap.Shows x y) :=
  ⟨.same⟩

lemma self_mem_around : gap ∈ gap.around := by
  cases gap <;> exact List.mem_cons_self

/-- What the conditions further inside show is also shown by the condition around them. -/
lemma Shows.inside {c answer before after other} (h : gap.Shows x y p q) :
    (Gap.inside c answer before gap after other).Shows x y p q := by
  cases h with
  | same => exact .same _
  | copy audit h => exact .copy audit (List.mem_cons_of_mem _ h)

/-- A condition is read in the same way with any filling, if the gap is not come to. -/
theorem read_fill {sheet : Sheet} {g : Generator} (h : gap.isTaken sheet g = false) :
    Reading.Alike (gap.Shows x y) ((gap.fill x).read sheet g) ((gap.fill y).read sheet g) := by
  induction gap generalizing sheet g with
  | branch c answer other =>
    have hne : (decideCondition c.expression sheet g).1.holds ≠ answer := beq_eq_false_iff_ne.1 h
    simp only [fill, Part.read_answering, if_neg hne]
    exact ⟨.cons (.copy _ self_mem_around) (List.forall₂_refl _), rfl, rfl⟩
  | inside c answer before gap after other ih =>
    simp only [fill, Part.read_answering]
    by_cases he : (decideCondition c.expression sheet g).1.holds = answer
    -- the branch with the gap in it is read, but the gap is further inside
    · simp only [isTaken, he, beq_self_eq_true, Bool.true_and] at h
      have shown : Reading.Alike ((inside c answer before gap after other).Shows x y) _ _ :=
        (ih h).imp fun _ _ => Shows.inside
      have branch := @Reading.Alike.around _ _ _ _ _ _ before after shown
      simp only [if_pos he]
      exact ⟨.cons (.copy _ self_mem_around) branch.parts, branch.sheet, branch.generator⟩
    · simp only [if_neg he]
      exact ⟨.cons (.copy _ self_mem_around) (List.forall₂_refl _), rfl, rfl⟩

/-- If the gap is come to, whatever it is filled with is read and shown. -/
theorem exists_read_fill {sheet : Sheet} {g : Generator} (h : gap.isTaken sheet g = true) :
    ∃ sheet' g', ∀ x : List Part,
      (Part.readAll sheet' g' x).parts <:+: ((gap.fill x).read sheet g).parts := by
  induction gap generalizing sheet g with
  | branch c answer other =>
    have he : (decideCondition c.expression sheet g).1.holds = answer := beq_iff_eq.1 h
    refine ⟨sheet, (decideCondition c.expression sheet g).2, fun x => ?_⟩
    simp only [fill, Part.read_answering, if_pos he]
    exact (List.suffix_cons _ _).isInfix
  | inside c answer before gap after other ih =>
    rw [isTaken, Bool.and_eq_true, beq_iff_eq] at h
    obtain ⟨sheet', g', shown⟩ := ih h.2
    refine ⟨sheet', g', fun x => (shown x).trans ?_⟩
    simp only [fill, Part.read_answering, if_pos h.1, Part.readAll_append, Part.readAll]
    exact (List.infix_append' _ _ _).trans (List.suffix_cons _ _).isInfix

/-- Nothing that is the same for all conditions tells apart what is shown. -/
lemma Shows.congr {α : Type} {f : Part → α} (h : gap.Shows x y p q)
    (hf : ∀ c yes no c' yes' no', f (.condition c yes no) = f (.condition c' yes' no')) :
    f p = f q := by
  cases h with
  | same => rfl
  | @copy inner =>
    cases inner with
    | branch c answer other => cases answer <;> exact hf _ _ _ _ _ _
    | inside c answer before gap after other => cases answer <;> exact hf _ _ _ _ _ _

section Parts

variable {parts parts' : List Part}

/-- What is found without a look into conditions is the same. -/
lemma filterMap_shows {α : Type} {f : Part → Option α}
    (h : List.Forall₂ (gap.Shows x y) parts parts')
    (hf : ∀ c yes no c' yes' no', f (.condition c yes no) = f (.condition c' yes' no')) :
    parts.filterMap f = parts'.filterMap f := by
  induction h with
  | nil => rfl
  | cons h _ ih => rw [List.filterMap_cons, List.filterMap_cons, h.congr hf, ih]

/-- Parts that are chosen without a look into conditions are shown in the same places. -/
lemma filter_shows {f : Part → Bool} (h : List.Forall₂ (gap.Shows x y) parts parts')
    (hf : ∀ c yes no c' yes' no', f (.condition c yes no) = f (.condition c' yes' no')) :
    List.Forall₂ (gap.Shows x y) (parts.filter f) (parts'.filter f) :=
  List.rel_filter (fun _ _ h => Bool.eq_iff_iff.1 (h.congr hf)) h

lemma narration_shows (h : List.Forall₂ (gap.Shows x y) parts parts') :
    narration parts = narration parts' :=
  congrArg (" ".intercalate ·) (filterMap_shows h fun _ _ _ _ _ _ => rfl)

lemma choicesOf_shows (h : List.Forall₂ (gap.Shows x y) parts parts') :
    choicesOf parts = choicesOf parts' :=
  filterMap_shows h fun _ _ _ _ _ _ => rfl

lemma withoutLinks_shows (h : List.Forall₂ (gap.Shows x y) parts parts') :
    List.Forall₂ (gap.Shows x y) (withoutLinks parts) (withoutLinks parts') :=
  filter_shows h fun _ _ _ _ _ _ => rfl

lemma onlyTarget?_shows (h : List.Forall₂ (gap.Shows x y) parts parts') :
    onlyTarget? parts = onlyTarget? parts' := by
  have links : List.Forall₂ (gap.Shows x y) (parts.filter Part.isLink)
      (parts'.filter Part.isLink) := filter_shows h fun _ _ _ _ _ _ => rfl
  rw [onlyTarget?, onlyTarget?]
  generalize parts.filter Part.isLink = ways, parts'.filter Part.isLink = ways' at links ⊢
  cases links with
  | nil => rfl
  | cons h rest =>
    cases rest with
    | nil => exact h.congr (f := Part.linkTarget?) fun _ _ _ _ _ _ => rfl
    | cons => rfl

end Parts

end Gap

/-- A story with a gap in the place of a branch. -/
structure StoryGap where
  /-- The story, but for its sections. -/
  frame : Story
  /-- The sections before the one with the gap. -/
  before : List Section
  /-- The section with the gap, but for its parts. -/
  home : Section
  /-- The parts of the section before the condition with the gap in it. -/
  earlier : List Part
  /-- The condition with the gap in it. -/
  gap : Gap
  /-- The parts of the section after the condition. -/
  later : List Part
  /-- The sections after the one with the gap. -/
  after : List Section

namespace StoryGap

/-- The section with some parts in the gap. -/
def place (G : StoryGap) (x : List Part) : Section :=
  { G.home with parts := G.earlier ++ G.gap.fill x :: G.later }

/-- The story with some parts in the gap. -/
def fill (G : StoryGap) (x : List Part) : Story :=
  { G.frame with sections := G.before ++ G.place x :: G.after }

/-- Whether a name is that of the section with the gap, and of no section before it. -/
def isNamed (G : StoryGap) (id : String) : Bool :=
  G.before.all (·.id ≠ id) && G.home.id = id

/-- Whether reading a section comes to the gap. -/
def isTaken (G : StoryGap) (a : Arrival) : Bool :=
  let reading := Part.readAll (a.opening G.frame.settings.state) a.generator G.earlier
  G.isNamed a.place.id && G.gap.isTaken reading.sheet reading.generator

/-- The same section, or the section with the gap with either of two fillings. -/
inductive Shares (G : StoryGap) (x y : List Part) : Section → Section → Prop where
  /-- The sections are the same. -/
  | same (s : Section) : Shares G x y s s
  /-- The sections are the ones with the gap. -/
  | place : Shares G x y (G.place x) (G.place y)

/-- Sections that are read with the same state and generator. -/
structure Arrives (G : StoryGap) (x y : List Part) (a b : Arrival) : Prop where
  /-- The sections are the same but for the gap. -/
  place : G.Shares x y a.place b.place
  /-- The state is the same. -/
  state : a.state = b.state
  /-- The generator is the same. -/
  generator : a.generator = b.generator

/-- Screens that are the same but for copies of the gap. -/
structure Alike (G : StoryGap) (x y : List Part) (screen other : Screen) : Prop where
  /-- The section asked for is the same but for the gap. -/
  origin : Option.Rel (G.Shares x y) screen.origin other.origin
  /-- The parts are the same but for copies of the gap in conditions. -/
  parts : List.Forall₂ (G.gap.Shows x y) screen.parts other.parts
  /-- The state is the same. -/
  state : screen.state = other.state
  /-- The text for a narrator is the same. -/
  narration : screen.narration = other.narration

variable {G : StoryGap} {x y : List Part} {id : String} {s : Section} {state : State}
  {g : Generator}

/-- If a story has a condition somewhere in its sections, either branch of it can be left open. -/
theorem exists_fill {story : Story} {p : Part → Bool} (hp : ∀ part, p part → part.isCondition)
    (answer : Bool) (hs : s ∈ story.sections) (h : Part.anyOf p s.parts = true) :
    ∃ (G : StoryGap) (x : List Part),
      G.fill x = story ∧ G.place x = s ∧ G.gap.Opens p answer x := by
  obtain ⟨before, after, e⟩ := List.append_of_mem hs
  obtain ⟨earlier, gap, later, x, hparts, opens⟩ := Gap.exists_fill_of hp answer h
  have place : { s with parts := earlier ++ gap.fill x :: later } = s := by rw [hparts]
  refine ⟨⟨story, before, s, earlier, gap, later, after⟩, x, ?_, place, opens⟩
  rw [fill, StoryGap.place, place, ← e]

lemma Shares.id_eq {s' : Section} (h : G.Shares x y s s') : s.id = s'.id := by
  cases h <;> rfl

lemma section?_fill : (G.fill x).section? id =
    (G.before.find? (·.id = id)).or
      (if G.home.id = id then some (G.place x) else G.after.find? (·.id = id)) := by
  rw [Story.section?, fill, List.find?_append, List.find?_cons]
  by_cases h : G.home.id = id <;> simp [place, h]

/-- A name that is not of the section with the gap finds the same section with all fillings. -/
lemma section?_of_isNamed_false (h : G.isNamed id = false) :
    (G.fill x).section? id = (G.fill y).section? id := by
  rw [section?_fill, section?_fill]
  rcases Bool.and_eq_false_iff.1 h with h | h
  · obtain ⟨s, hs⟩ : ∃ s, G.before.find? (·.id = id) = some s := by
      rw [← Option.isSome_iff_exists, List.find?_isSome]
      simpa using h
    rw [hs, Option.some_or, Option.some_or]
  · rw [if_neg (of_decide_eq_false h), if_neg (of_decide_eq_false h)]

/-- The name of the section with the gap finds it. -/
lemma section?_of_isNamed (h : G.isNamed id = true) : (G.fill x).section? id = some (G.place x) := by
  obtain ⟨hbefore, hid⟩ := Bool.and_eq_true_iff.1 h
  have none : G.before.find? (·.id = id) = none := by
    rw [List.find?_eq_none]
    simpa using hbefore
  rw [section?_fill, none, Option.none_or, if_pos (of_decide_eq_true hid)]

/-- A name that finds no section finds none with another filling. -/
lemma section?_eq_none (h : (G.fill x).section? id = none) : (G.fill y).section? id = none := by
  cases hn : G.isNamed id with
  | true =>
    rw [section?_of_isNamed hn] at h
    cases h
  | false => rwa [section?_of_isNamed_false (y := y) hn] at h

/-- A name finds sections that are read in the same way, if the gap is not come to. -/
lemma exists_shares (hs : (G.fill x).section? id = some s)
    (hu : G.isTaken ⟨s, state, g⟩ = false) :
    ∃ s', (G.fill y).section? id = some s' ∧ G.Shares x y s s' ∧
      Reading.Alike (G.gap.Shows x y)
        (Part.readAll (G.frame.settings.state.flatten.overlay state.flatten) g s.parts)
        (Part.readAll (G.frame.settings.state.flatten.overlay state.flatten) g s'.parts) := by
  cases hn : G.isNamed id with
  | true =>
    rw [section?_of_isNamed hn] at hs
    cases hs
    have home : (G.place x).id = id := of_decide_eq_true (Bool.and_eq_true_iff.1 hn).2
    rw [isTaken, home, hn, Bool.true_and] at hu
    exact ⟨G.place y, section?_of_isNamed hn, .place, .around (Gap.read_fill hu)⟩
  | false =>
    rw [section?_of_isNamed_false (y := y) hn] at hs
    exact ⟨s, hs, .same s, .refl⟩

/-- A section makes the same screen with another filling, if the gap is not come to. -/
lemma exists_resolve {passage g'} (hs : (G.fill x).section? id = some s)
    (hread : s.resolve state (G.fill x).settings.state g = (passage, g'))
    (hu : G.isTaken ⟨s, state, g⟩ = false) :
    ∃ s' passage', (G.fill y).section? id = some s' ∧
      s'.resolve state (G.fill y).settings.state g = (passage', g') ∧
      G.Shares x y s s' ∧ G.Alike x y (.ofPassage s passage) (.ofPassage s' passage') := by
  obtain ⟨s', hs', shares, parts, sheet, generator⟩ := @exists_shares G x y id s state g hs hu
  cases hread
  refine ⟨s', _, hs', Prod.ext rfl generator.symm, shares, .some shares, parts, ?_, ?_⟩
  · exact congrArg (fun sheet : Sheet => (sheet.without _).rebuild) sheet
  · exact Gap.narration_shows parts

/-- The way on from a section is the same with another filling. -/
lemma Alike.wayOn?_eq {s' : Section} {passage passage' : Passage} {revisits visited}
    (h : G.Alike x y (.ofPassage s passage) (.ofPassage s' passage')) (hs : G.Shares x y s s') :
    Walk.wayOn? revisits (s.id :: visited) passage.parts =
      Walk.wayOn? revisits (s'.id :: visited) passage'.parts := by
  have parts : List.Forall₂ (G.gap.Shows x y) passage.parts passage'.parts := h.parts
  apply Option.ext
  intro target
  rw [Walk.wayOn?_eq_some_iff, Walk.wayOn?_eq_some_iff, Gap.onlyTarget?_shows parts, hs.id_eq]

/-- Screens stay the same but for copies of the gap when the ways on are followed. -/
lemma Alike.leaving {s' : Section} {passage passage' : Passage} {next next' : Screen}
    (h : G.Alike x y (.ofPassage s passage) (.ofPassage s' passage')) (hn : G.Alike x y next next') :
    G.Alike x y (.leaving s passage next) (.leaving s' passage' next') := by
  have parts : List.Forall₂ (G.gap.Shows x y) (withoutLinks passage.parts ++ next.parts)
      (withoutLinks passage'.parts ++ next'.parts) :=
    List.rel_append (Gap.withoutLinks_shows h.parts) hn.parts
  exact ⟨h.origin, parts, hn.state, Gap.narration_shows parts⟩

/-- A trail leads along the same sections with another filling, if the gap is never come to. -/
lemma exists_trail_fill {revisits depth visited screen g' log}
    (h : (G.fill x).Trail revisits depth visited id state g screen g' log)
    (hu : ∀ a ∈ log, G.isTaken a = false) :
    ∃ screen' log', (G.fill y).Trail revisits depth visited id state g screen' g' log' ∧
      G.Alike x y screen screen' ∧ List.Forall₂ (G.Arrives x y) log log' := by
  induction h with
  | spent => exact ⟨_, _, .spent, ⟨.none, .nil, rfl, rfl⟩, .nil⟩
  | missing hs => exact ⟨_, _, .missing (section?_eq_none hs), ⟨.none, .nil, rfl, rfl⟩, .nil⟩
  | stay hs hread hw =>
    obtain ⟨s', passage', hs', hread', shares, alike⟩ :=
      @exists_resolve G x y _ _ _ _ _ _ hs hread (hu _ List.mem_cons_self)
    rw [alike.wayOn?_eq shares] at hw
    exact ⟨_, _, .stay hs' hread' hw, alike, .cons ⟨shares, rfl, rfl⟩ .nil⟩
  | @leave depth visited id state g s passage g' target next g'' log hs hread hw _ ih =>
    obtain ⟨s', passage', hs', hread', shares, alike⟩ :=
      @exists_resolve G x y _ _ _ _ _ _ hs hread (hu _ List.mem_cons_self)
    obtain ⟨next', log', trail, further, logs⟩ := ih fun a ha => hu a (List.mem_cons_of_mem _ ha)
    rw [alike.wayOn?_eq shares] at hw
    rw [shares.id_eq, show passage.state = passage'.state from alike.state] at trail
    exact ⟨_, _, .leave hs' hread' hw trail, alike.leaving further, .cons ⟨shares, rfl, rfl⟩ logs⟩

/--
A branch that is not taken has no influence. If no reading of a section for a screen comes to the
gap, then any two fillings of it make the same screen from the same sections with the same states
and generators, with the same choices and the same text for a narrator. Only the conditions around
the gap, where they are shown, and the section itself hold copies of what the gap is filled with.
-/
theorem resolveNext_untaken (G : StoryGap) (x y : List Part) (config : Config) (id : String)
    (state : State) (g : Generator)
    (h : ∀ a ∈ ((G.fill x).followLogged config.revisits config.maxDepth [] id state g).2,
      G.isTaken a = false) :
    let (screen, left) := (G.fill x).resolveNext config id state g
    let (screen', left') := (G.fill y).resolveNext config id state g
    G.Alike x y screen screen' ∧ screen.choices = screen'.choices ∧ left = left' ∧
      List.Forall₂ (G.Arrives x y)
        ((G.fill x).followLogged config.revisits config.maxDepth [] id state g).2
        ((G.fill y).followLogged config.revisits config.maxDepth [] id state g).2 := by
  obtain ⟨screen', log', trail, alike, logs⟩ :=
    exists_trail_fill (y := y) Story.trail_resolveNext h
  have e := trail.followLogged_eq
  have he : (G.fill y).resolveNext config id state g =
      (screen', ((G.fill x).resolveNext config id state g).2) := by
    rw [Story.resolveNext, ← Story.followLogged_fst, e]
  rw [he, e]
  exact ⟨alike, Gap.choicesOf_shows alike.parts, rfl, logs⟩

/-- A traveller pays at an inn and may ride on if there is enough money left. -/
def horseAtInn : StoryGap where
  frame := {
    title := "Horse at an inn"
    description := []
    settings := .setting (.insert .empty "coins" (.scalar (.number 5)))
    sections := []
    images := [] }
  before := []
  home := { id := "inn", heading := "Inn", parts := [] }
  earlier := [.paragraph "You have {coins} coins." none]
  gap := .inside ⟨"{coins} > 3", none, none, none⟩ true
    [.action (.setting (.insert .empty "coins" (.scalar (.text "-=1"))))]
    (.branch ⟨"{coins} > 9", none, none, none⟩ true [.paragraph "You walk." none]) [] []
  later := [.navigation "On" "#road"]
  after := [
    { id := "road"
      heading := "Road"
      parts := [.link ⟨"North", "#mountains", none⟩, .link ⟨"South", "#inn", none⟩] }]

/-- There is not enough money, so it makes no difference what a ride would be like. -/
theorem resolveNext_untaken_horseAtInn :
    let ride : List Part :=
      [.action (.setting (.insert .empty "horse" (.scalar (.number 1)))), .link ⟨"Stop", "#inn", none⟩]
    let log := ((horseAtInn.fill []).followLogged .allowed 10 [] "inn" .empty (.ofSeed 1)).2
    let screen := ((horseAtInn.fill []).resolveNext {} "inn" .empty (.ofSeed 1)).1
    let screen' := ((horseAtInn.fill ride).resolveNext {} "inn" .empty (.ofSeed 1)).1
    log.map (·.place.id) = ["inn", "road"] ∧ (∀ a ∈ log, horseAtInn.isTaken a = false) ∧
      horseAtInn.Alike [] ride screen screen' ∧ screen.choices = screen'.choices ∧
      screen.choices = [⟨"North", "mountains"⟩, ⟨"South", "inn"⟩] := by
  intro ride log screen screen'
  have untaken : ∀ a ∈ log, horseAtInn.isTaken a = false := by decide +kernel
  obtain ⟨alike, choices, -⟩ :=
    resolveNext_untaken horseAtInn [] ride {} "inn" .empty (.ofSeed 1) untaken
  exact ⟨by decide +kernel, untaken, alike, choices, by decide +kernel⟩

end StoryGap

end Gamebook
