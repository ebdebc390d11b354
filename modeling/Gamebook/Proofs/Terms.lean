import Gamebook.Dice.Roll
import Gamebook.Proofs.NumberText
import Mathlib.Control.Monad.Basic

/-!
# Terms in square brackets

A text is cut into its terms: from the leftmost opening bracket to the next closing one, and again
in what is left. The terms are rolled in turn. If all of them roll, their totals stand in their
places, and no term is left in the text; if one does not, the text stays as it is, and the terms
behind it are not rolled. Main definitions: `DiceTerm`, `Termed`, `RollInTurn`, `FailInTurn`. Main
statement: `rollTerms_all_or_none`.
-/

namespace Gamebook

/-- A term and the text before it. -/
structure DiceTerm where
  /-- The text before the opening bracket. -/
  before : List Char
  /-- The text between the brackets. -/
  term : List Char
  /-- The opening bracket is the first one. -/
  opening : '[' ∉ before
  /-- The closing bracket is the first one behind it. -/
  closing : ']' ∉ term

/-- The text up to the closing bracket. -/
def DiceTerm.text (b : DiceTerm) : List Char :=
  b.before ++ '[' :: (b.term ++ [']'])

/-- Whether a text has no term: behind its first opening bracket there is no closing one. -/
def Termless (cs : List Char) : Prop :=
  ∀ front back, cs = front ++ '[' :: back → ']' ∉ back

/-- A text that is cut into its terms. -/
structure Termed where
  /-- The terms in order. -/
  terms : List DiceTerm
  /-- The text behind the last term. -/
  rest : List Char
  /-- There is no other term. -/
  termless : Termless rest

namespace Termed

/-- The text that is cut. -/
def text (t : Termed) : List Char :=
  t.terms.flatMap DiceTerm.text ++ t.rest

/-- The text with the totals in the places of the terms. -/
def filled (t : Termed) (rolled : List Rolled) : List Char :=
  (List.zipWith (fun b r => b.before ++ (Number.display r.total).toList) t.terms rolled).flatten ++
    t.rest

end Termed

/-- Terms that are rolled one after the other, what they give, and the generator that is left. -/
inductive RollInTurn : List DiceTerm → Generator → List Rolled → Generator → Prop where
  | done {g} : RollInTurn [] g [] g
  | next {b : DiceTerm} {bs g r g' rs g''} :
    rollText (.ofList b.term) g = (.ok r, g') → RollInTurn bs g' rs g'' →
    RollInTurn (b :: bs) g (r :: rs) g''

/-- Terms of which one does not roll, after the ones before it have; those behind it are left. -/
inductive FailInTurn : List DiceTerm → Generator → Expr.Fault → Generator → Prop where
  | here {b : DiceTerm} {bs g fault g'} :
    rollText (.ofList b.term) g = (.error fault, g') → FailInTurn (b :: bs) g fault g'
  | later {b : DiceTerm} {bs g r g' fault g''} :
    rollText (.ofList b.term) g = (.ok r, g') → FailInTurn bs g' fault g'' →
    FailInTurn (b :: bs) g fault g''

section Cut

variable {cs rest : List Char}

/-- The first term of a text is the first one that it is cut into. -/
lemma cutTerm?_term (b : DiceTerm) : cutTerm? (b.text ++ rest) = some (b.before, b.term, rest) := by
  have hopen : Text.cutAtFirst? '[' (b.text ++ rest) = some (b.before, b.term ++ ']' :: rest) := by
    rw [DiceTerm.text, List.append_assoc, List.cons_append, List.append_assoc,
      Text.cutAtFirst?_append b.opening]
    rfl
  rw [cutTerm?, hopen]
  simp only [Option.bind_eq_bind, Option.bind_some, Text.cutAtFirst?_append b.closing]
  rfl

lemma termless_append_cons {front back : List Char} (hfront : '[' ∉ front) :
    Termless (front ++ '[' :: back) ↔ ']' ∉ back := by
  refine ⟨fun h => h _ _ rfl, fun h front' back' e => ?_⟩
  -- what is behind a later opening bracket is behind the first one
  suffices back' <:+ back from fun hmem => h (this.subset hmem)
  obtain ⟨more, rfl, hmore⟩ | ⟨more, rfl, hmore⟩ := List.append_eq_append_iff.1 e
  · cases more with
    | nil => exact (List.cons.inj hmore).2 ▸ List.suffix_refl _
    | cons c more =>
      exact (List.cons.inj hmore).2 ▸ List.suffix_append_of_suffix (List.suffix_cons _ _)
  · cases more with
    | nil => exact (List.cons.inj hmore).2 ▸ List.suffix_refl _
    | cons c more =>
      rw [← (List.cons.inj hmore).1] at hfront
      exact (hfront (List.mem_append_right _ List.mem_cons_self)).elim

lemma termless_of_not_mem (h : '[' ∉ cs) : Termless cs :=
  fun _ _ e => (h (e ▸ List.mem_append_right _ List.mem_cons_self)).elim

/-- Nothing is cut from a text without terms. -/
lemma cutTerm?_eq_none_iff : cutTerm? cs = none ↔ Termless cs := by
  cases hopen : Text.cutAtFirst? '[' cs with
  | none =>
    rw [cutTerm?, hopen]
    exact ⟨fun _ => termless_of_not_mem (Text.cutAtFirst?_eq_none_iff.1 hopen), fun _ => rfl⟩
  | some cut =>
    obtain ⟨before, behind⟩ := cut
    obtain ⟨rfl, hbefore⟩ := Text.cutAtFirst?_eq_some hopen
    rw [termless_append_cons hbefore, ← Text.cutAtFirst?_eq_none_iff, cutTerm?, hopen]
    cases h : Text.cutAtFirst? ']' behind with
    | none => simp [h]
    | some cut => simp [h]

/-- What is cut from a text is its first term. -/
lemma exists_term {before term after : List Char} (h : cutTerm? cs = some (before, term, after)) :
    ∃ b : DiceTerm, cs = b.text ++ after := by
  simp only [cutTerm?, Option.pure_def, Option.bind_eq_bind, Option.bind_eq_some_iff,
    Option.some.injEq, Prod.mk.injEq, Prod.exists] at h
  obtain ⟨b, r, hopen, t, a, hclose, rfl, rfl, rfl⟩ := h
  obtain ⟨rfl, hb⟩ := Text.cutAtFirst?_eq_some hopen
  obtain ⟨rfl, ht⟩ := Text.cutAtFirst?_eq_some hclose
  exact ⟨⟨b, t, hb, ht⟩, by simp [DiceTerm.text]⟩

/-- Every text can be cut into its terms. -/
lemma exists_termed (cs : List Char) : ∃ t : Termed, t.text = cs := by
  cases h : cutTerm? cs with
  | none => exact ⟨⟨[], cs, cutTerm?_eq_none_iff.1 h⟩, rfl⟩
  | some cut =>
    obtain ⟨before, term, after⟩ := cut
    have hshort := cutTerm?_length h
    obtain ⟨b, rfl⟩ := exists_term h
    obtain ⟨t, rfl⟩ := exists_termed after
    exact ⟨⟨b :: t.terms, t.rest, t.termless⟩, List.append_assoc _ _ _⟩
termination_by cs.length

end Cut

section Rolls

variable {cs rest : List Char} {g g' g'' : Generator} {terms : List DiceTerm} {rolled : List Rolled}

lemma rollTermsFrom_termless (h : Termless cs) : rollTermsFrom cs g = (.ok (cs, []), g) := by
  rw [rollTermsFrom]
  split
  · rfl
  · next e =>
    rw [cutTerm?_eq_none_iff.2 h] at e
    cases e

/-- The first term is rolled first. -/
lemma rollTermsFrom_term (b : DiceTerm) :
    rollTermsFrom (b.text ++ rest) g =
      match rollText (.ofList b.term) g with
      | (.error fault, g) => (.error fault, g)
      | (.ok r, g) =>
        match rollTermsFrom rest g with
        | (.error fault, g) => (.error fault, g)
        | (.ok (text, groups), g) =>
          (.ok (b.before ++ (Number.display r.total).toList ++ text, r.groups ++ groups), g) := by
  rw [rollTermsFrom]
  split
  · next e =>
    rw [cutTerm?_term] at e
    cases e
  · next before term after e =>
    rw [cutTerm?_term] at e
    cases e
    rfl

/-- If the terms roll, so does the text, with their totals in their places. -/
lemma RollInTurn.rollTermsFrom_eq (h : RollInTurn terms g rolled g') (hrest : Termless rest) :
    rollTermsFrom (terms.flatMap DiceTerm.text ++ rest) g =
      (.ok ((List.zipWith (fun b r => b.before ++ (Number.display r.total).toList) terms
        rolled).flatten ++ rest, rolled.flatMap (·.groups)), g') := by
  induction h with
  | done => exact rollTermsFrom_termless hrest
  | next hroll _ ih =>
    rw [List.flatMap_cons, List.append_assoc, rollTermsFrom_term]
    simp only [hroll, ih, List.zipWith_cons_cons, List.flatten_cons, List.append_assoc,
      List.flatMap_cons]

/-- The first term that does not roll is the fault of the text. -/
lemma FailInTurn.rollTermsFrom_eq {fault : Expr.Fault} (h : FailInTurn terms g fault g')
    (rest : List Char) :
    rollTermsFrom (terms.flatMap DiceTerm.text ++ rest) g = (.error fault, g') := by
  induction h with
  | here hfault =>
    rw [List.flatMap_cons, List.append_assoc, rollTermsFrom_term]
    simp only [hfault]
  | later hroll _ ih =>
    rw [List.flatMap_cons, List.append_assoc, rollTermsFrom_term]
    simp only [hroll, ih]

/-- Either all terms roll or there is a first one that does not. -/
lemma roll_or_fail (terms : List DiceTerm) (g : Generator) :
    (∃ rolled g', RollInTurn terms g rolled g') ∨ ∃ fault g', FailInTurn terms g fault g' := by
  induction terms generalizing g with
  | nil => exact .inl ⟨[], g, .done⟩
  | cons b bs ih =>
    rcases hroll : rollText (.ofList b.term) g with ⟨fault | r, g'⟩
    · exact .inr ⟨fault, g', .here hroll⟩
    · obtain ⟨rolled, g'', hrolled⟩ | ⟨fault, g'', hfail⟩ := ih g'
      · exact .inl ⟨r :: rolled, g'', .next hroll hrolled⟩
      · exact .inr ⟨fault, g'', .later hroll hfail⟩

/-- The text of a number has no opening bracket. -/
lemma not_mem_display {x} : '[' ∉ (Number.display x).toList := by
  intro h
  obtain h | h := Number.mem_display h
  · exact absurd h (by decide)
  · exact absurd h (by decide)

/-- No opening bracket comes in with the totals, so no term is left. -/
lemma Termed.termless_filled (t : Termed) (rolled : List Rolled) : Termless (t.filled rolled) := by
  have plain : '[' ∉ (List.zipWith (fun (b : DiceTerm) (r : Rolled) =>
      b.before ++ (Number.display r.total).toList) t.terms rolled).flatten := by
    rw [List.mem_flatten]
    rintro ⟨piece, hpiece, hmem⟩
    obtain ⟨i, hi, rfl⟩ := List.mem_iff_getElem.1 hpiece
    rw [List.getElem_zipWith, List.mem_append] at hmem
    exact hmem.elim (DiceTerm.opening _) not_mem_display
  by_cases hrest : '[' ∈ t.rest
  · obtain ⟨front, back, e, hfront⟩ := List.eq_append_cons_of_mem hrest
    rw [filled, e, ← List.append_assoc, termless_append_cons]
    · exact t.termless front back e
    · rw [List.mem_append, not_or]
      exact ⟨plain, hfront⟩
  · refine termless_of_not_mem ?_
    rw [filled, List.mem_append, not_or]
    exact ⟨plain, hrest⟩

end Rolls

lemma rollTerms_termless {text : String} {g : Generator} (h : Termless text.toList) :
    rollTerms text g = (⟨text, none⟩, g) := by
  rw [rollTerms, rollTermsFrom_termless h]
  simp

/--
Every text can be cut into its terms, and either they all roll in turn or there is a first one that
does not. If they roll, the text has their totals in their places and is otherwise the same, the
trail is made of the groups of the terms in order, and there is none if no group was rolled; in the
text that results there is nothing to roll. If a term does not roll, the text stays as it is, the
trail says what is wrong with that term, and no more is drawn than for the terms up to it.
-/
theorem rollTerms_all_or_none (text : String) (g : Generator) :
    (∃ t : Termed, t.text = text.toList) ∧
    ∀ t : Termed, t.text = text.toList →
      ((∃ rolled g', RollInTurn t.terms g rolled g') ∨
        ∃ fault g', FailInTurn t.terms g fault g') ∧
      (∀ rolled g', RollInTurn t.terms g rolled g' →
        let groups := rolled.flatMap (·.groups)
        let result := String.ofList (t.filled rolled)
        rollTerms text g = (⟨result,
          if groups = [] then none else some (String.join (groups.map Group.text))⟩, g') ∧
        ∀ h, rollTerms result h = (⟨result, none⟩, h)) ∧
      ∀ fault g', FailInTurn t.terms g fault g' →
        rollTerms text g = (⟨text, some fault.message⟩, g') := by
  refine ⟨exists_termed _, fun t ht => ⟨roll_or_fail t.terms g, ?_, fun fault g' hfail => ?_⟩⟩
  · refine fun rolled g' hrolled => ⟨?_, fun h => ?_⟩
    · have hfrom := hrolled.rollTermsFrom_eq t.termless
      rw [show t.terms.flatMap DiceTerm.text ++ t.rest = text.toList from ht] at hfrom
      rw [rollTerms, hfrom]
      simp only [List.isEmpty_iff]
      rfl
    · apply rollTerms_termless
      rw [String.toList_ofList]
      exact t.termless_filled rolled
  · have hfrom := hfail.rollTermsFrom_eq t.rest
    rw [show t.terms.flatMap DiceTerm.text ++ t.rest = text.toList from ht] at hfrom
    rw [rollTerms, hfrom]

/-- A text with two terms, a lone closing bracket and a lone opening one. -/
def wager : Termed where
  terms :=
    [⟨"4+".toList, "d1".toList, by decide, by decide⟩,
      ⟨"<4 ]x".toList, "2d1+1".toList, by decide, by decide⟩]
  rest := ['[']
  termless := (termless_append_cons List.not_mem_nil).2 List.not_mem_nil

/-- A text whose second term does not roll. -/
def brokenWager : Termed where
  terms :=
    [⟨[], "d1".toList, by decide, by decide⟩, ⟨['+'], "banana".toList, by decide, by decide⟩,
      ⟨[], "d6".toList, by decide, by decide⟩]
  rest := []
  termless := termless_of_not_mem List.not_mem_nil

/-- Both terms are rolled, or none is and the die behind the banana is not drawn. -/
theorem rollTerms_wagers :
    let g (drawn : Nat) : Generator := ⟨Keystream.keyOfSeed 7, drawn⟩
    wager.text = "4+[d1]<4 ]x[2d1+1][".toList ∧
      RollInTurn wager.terms (g 0) [⟨.number 1, [⟨1, [1]⟩]⟩, ⟨.number 3, [⟨1, [1, 1]⟩]⟩] (g 3) ∧
      rollTerms "4+[d1]<4 ]x[2d1+1][" (g 0) = (⟨"4+1<4 ]x3[", some "[1][1, 1]"⟩, g 3) ∧
      (∀ h, rollTerms "4+1<4 ]x3[" h = (⟨"4+1<4 ]x3[", none⟩, h)) ∧
      brokenWager.text = "[d1]+[banana][d6]".toList ∧
      FailInTurn brokenWager.terms (g 0) (.unresolved "banana") (g 1) ∧
      rollTerms "[d1]+[banana][d6]" (g 0) =
        (⟨"[d1]+[banana][d6]", some "unresolved variable: banana"⟩, g 1) := by
  intro g
  have hone : rollText "d1" (g 0) = (.ok ⟨.number 1, [⟨1, [1]⟩]⟩, g 1) := by decide +kernel
  have hthree : rollText "2d1+1" (g 1) = (.ok ⟨.number 3, [⟨1, [1, 1]⟩]⟩, g 3) := by decide +kernel
  have hbanana : rollText "banana" (g 1) = (.error (.unresolved "banana"), g 1) := by decide +kernel
  have htext : wager.text = "4+[d1]<4 ]x[2d1+1][".toList := by decide
  have hbroken : brokenWager.text = "[d1]+[banana][d6]".toList := by decide
  have hrolls : RollInTurn wager.terms (g 0)
      [⟨.number 1, [⟨1, [1]⟩]⟩, ⟨.number 3, [⟨1, [1, 1]⟩]⟩] (g 3) := .next hone (.next hthree .done)
  obtain ⟨hall, hagain⟩ := ((rollTerms_all_or_none _ (g 0)).2 wager htext).2.1 _ _ hrolls
  have hfails : FailInTurn brokenWager.terms (g 0) (.unresolved "banana") (g 1) :=
    .later hone (.here hbanana)
  have hnone := ((rollTerms_all_or_none _ (g 0)).2 brokenWager hbroken).2.2 _ _ hfails
  have hfilled : String.ofList (wager.filled
      [⟨.number 1, [⟨1, [1]⟩]⟩, ⟨.number 3, [⟨1, [1, 1]⟩]⟩]) = "4+1<4 ]x3[" := by decide +kernel
  rw [hfilled] at hall hagain
  exact ⟨htext, hrolls, hall, hagain, hbroken, hfails, hnone⟩

end Gamebook
