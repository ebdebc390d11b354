import Gamebook.Proofs.FiniteNumbers
import Gamebook.Proofs.ReachedDice

/-!
# The two evaluators

An expression has a value of its own if no dice are reached in it, and then rolling it gives that
value, no groups, and draws nothing. The variables are looked at first, also those of operands that
are passed over. Main definition: `Expr.names`. Main statement: `Expr.evaluate_agrees_roll`.
-/

namespace Gamebook

namespace Expr

/-- The names of the variables from the left, each as often as it occurs. -/
def names : Expr → List String
  | var name => [name]
  | unary _ operand => operand.names
  | binary _ left right => left.names ++ right.names
  | _ => []

variable {e : Expr} {g g' : Generator} {v : Value} {rolled : Rolled}

lemma firstVariable?_eq : e.firstVariable? = e.names.head? := by
  induction e with
  | number x => rfl
  | bool b => rfl
  | var name => rfl
  | dice count sides => rfl
  | unary op operand ih => exact ih
  | binary op left right ihl ihr =>
    rw [firstVariable?, names, List.head?_append, ihl, ihr]

/-- No dice are reached in an expression that has a value. -/
lemma reaches_of_value (h : e.value = .ok v) : e.Reaches [] v := by
  induction e generalizing v with
  | number x =>
    obtain ⟨hx, rfl⟩ := Value.finite_cases h
    exact .number hx
  | bool b =>
    cases h
    exact .bool
  | var name => cases h
  | dice count sides => cases h
  | unary op operand ih =>
    rw [value] at h
    split at h
    · cases h
    · next w hw => exact .unary (ih hw) h
  | binary op left right ihl ihr =>
    rw [value] at h
    split at h
    · cases h
    next a ha =>
    split at h
    · next w hw =>
      cases h
      exact .skip (ihl ha) hw
    next hnone =>
    split at h
    · cases h
    · next b hb => exact .binary (ihl ha) hnone (ihr hb) h

/-- An expression in which no dice are reached has the value by itself. -/
lemma Reaches.value_eq {ts} (h : e.Reaches ts v) (hts : ts = []) : e.value = .ok v := by
  induction h with
  | number hx => exact if_pos hx
  | bool => rfl
  | dice => cases hts
  | unary _ happly ih =>
    rw [value, ih hts]
    exact happly
  | skip _ hskip ih =>
    rw [value, ih hts]
    dsimp only
    rw [hskip]
  | binary _ hnone _ happly ihl ihr =>
    obtain ⟨hleft, hright⟩ := List.append_eq_nil_iff.1 hts
    rw [value, ihl hleft]
    dsimp only
    rw [hnone, ihr hright]
    exact happly

/-- An expression in which no dice are reached is rolled to the value, and nothing is drawn. -/
lemma Reaches.rollValue_eq {ts} (h : e.Reaches ts v) (hts : ts = []) :
    e.rollValue g = (.ok ⟨v, []⟩, g) := by
  induction h with
  | number hx =>
    rw [rollValue, Value.finite, if_pos hx]
    rfl
  | bool => rfl
  | dice => cases hts
  | unary _ happly ih =>
    rw [rollValue, ih hts]
    dsimp only
    rw [happly]
    rfl
  | skip _ hskip ih =>
    rw [rollValue, ih hts]
    dsimp only
    rw [hskip]
  | binary _ hnone _ happly ihl ihr =>
    obtain ⟨hleft, hright⟩ := List.append_eq_nil_iff.1 hts
    rw [rollValue, ihl hleft]
    dsimp only
    rw [hnone, ihr hright]
    dsimp only
    rw [happly]
    rfl

/-- An expression that is rolled without a group has the value by itself. -/
lemma value_of_rollValue (h : e.rollValue g = (.ok rolled, g')) (hgroups : rolled.groups = []) :
    e.value = .ok rolled.value := by
  obtain ⟨ts, hts, reaches, -, -⟩ := reaches_of_rollValue h
  rw [hts, List.map_eq_nil_iff] at hgroups
  exact reaches.value_eq hgroups

lemma roll_of_evaluate (h : e.evaluate = .ok v) : e.roll g = (.ok ⟨v, []⟩, g) := by
  rw [evaluate] at h
  split at h
  · cases h
  · next hnone =>
    rw [roll, hnone]
    exact (reaches_of_value h).rollValue_eq rfl

lemma evaluate_of_roll (h : e.roll g = (.ok ⟨v, []⟩, g')) : e.evaluate = .ok v := by
  rw [roll] at h
  split at h
  · cases h
  · next hnone =>
    rw [evaluate, hnone]
    exact value_of_rollValue h rfl

/-- With the totals of thrown dice a number is finite. -/
lemma Reaches.isFinite {ts : List Throw} {x : Float} (h : Reaches e ts (.number x))
    (sound : ∀ t ∈ ts, t.Sound) : x.isFinite = true := by
  cases h with
  | number hx => exact hx
  | dice => exact Number.isFinite_of_integer? (sound _ List.mem_cons_self).counted
  | unary _ happly => exact UnaryOp.isFinite_of_apply happly
  | skip _ hskip => exact (BinaryOp.shortcut?_ne_number hskip).elim
  | binary _ _ _ happly => exact BinaryOp.isFinite_of_apply happly

lemma isFinite_of_evaluate {x : Float} (h : e.evaluate = .ok (.number x)) :
    x.isFinite = true := by
  rw [evaluate] at h
  split at h
  · cases h
  · exact isFinite_of_value h

lemma isFinite_of_roll (fits : e.Fits) (h : e.roll g = (.ok rolled, g')) {x : Float}
    (hx : rolled.value = .number x) : x.isFinite = true := by
  rw [roll] at h
  split at h
  · cases h
  · obtain ⟨ts, -, reaches, -, sound⟩ := reaches_of_rollValue h
    rw [hx] at reaches
    exact reaches.isFinite (sound fits)

/--
An expression has a value of its own exactly if some generator rolls it to that value without a
group, and then every generator does so and is left as it is. With a variable anywhere in it, it has
no value and is not rolled: the leftmost variable is the fault, and nothing is drawn. Whatever
number comes out is finite; where dice are rolled, their sides are numbers of 32 bits.
-/
theorem evaluate_agrees_roll (e : Expr) :
    (∀ v, e.evaluate = .ok v ↔ ∃ g g', e.roll g = (.ok ⟨v, []⟩, g')) ∧
      (∀ v, e.evaluate = .ok v ↔ ∀ g, e.roll g = (.ok ⟨v, []⟩, g)) ∧
      (∀ name rest, e.names = name :: rest →
        e.evaluate = .error (.unresolved name) ∧ ∀ g, e.roll g = (.error (.unresolved name), g)) ∧
      (∀ x, e.evaluate = .ok (.number x) → x.isFinite = true) ∧
      (e.Fits → ∀ g g' groups x, e.roll g = (.ok ⟨.number x, groups⟩, g') → x.isFinite = true) := by
  refine ⟨?_, ?_, ?_, ?_, ?_⟩
  · intro v
    constructor
    · intro h
      exact ⟨.ofSeed 0, _, roll_of_evaluate h⟩
    · rintro ⟨g, g', h⟩
      exact evaluate_of_roll h
  · intro v
    constructor
    · intro h g
      exact roll_of_evaluate h
    · intro h
      exact evaluate_of_roll (h (.ofSeed 0))
  · intro name rest h
    have first : e.firstVariable? = some name := by
      rw [firstVariable?_eq, h]
      rfl
    rw [evaluate, first]
    refine ⟨rfl, ?_⟩
    intro g
    rw [roll, first]
  · intro x h
    exact isFinite_of_evaluate h
  · intro fits g g' groups x h
    exact isFinite_of_roll fits h rfl

/-- A comparison that spares a die. -/
def sparedDie : Expr :=
  .binary .or (.binary .lt (.number 1) (.number 2)) (.dice 1 20)

/-- A variable and dice that are passed over. -/
def passedApple : Expr :=
  .binary .and (.bool false) (.binary .gt (.dice 2 6) (.var "apple"))

/-- Two dice and one. -/
def diceAndOne : Expr :=
  .binary .add (.dice 2 6) (.number 1)

/-- A die that is spared is not drawn, a variable that is passed over is a fault, and dice count. -/
theorem evaluate_agrees_roll_spared :
    let g (drawn : Nat) : Generator := ⟨Keystream.keyOfSeed 7, drawn⟩
    (sparedDie.evaluate = .ok (.bool true) ∧ ∀ g, sparedDie.roll g = (.ok ⟨.bool true, []⟩, g)) ∧
      (passedApple.names = ["apple"] ∧ passedApple.evaluate = .error (.unresolved "apple") ∧
        ∀ g, passedApple.roll g = (.error (.unresolved "apple"), g)) ∧
      diceAndOne.Fits ∧
      diceAndOne.roll (g 0) = (.ok ⟨.number 5, [⟨6, [3, 1]⟩]⟩, g 2) ∧
      (5 : Float).isFinite = true := by
  intro g
  have hspared : sparedDie.evaluate = .ok (.bool true) := by decide +kernel
  have hnames : passedApple.names = ["apple"] := rfl
  have hfits : diceAndOne.Fits := by
    intro d hd
    rw [List.mem_singleton.1 hd]
    decide
  have hroll : diceAndOne.roll (g 0) = (.ok ⟨.number 5, [⟨6, [3, 1]⟩]⟩, g 2) := by
    decide +kernel
  obtain ⟨-, everyGenerator, -, -, -⟩ := evaluate_agrees_roll sparedDie
  obtain ⟨-, -, unresolved, -, -⟩ := evaluate_agrees_roll passedApple
  obtain ⟨-, -, -, -, finite⟩ := evaluate_agrees_roll diceAndOne
  exact ⟨⟨hspared, (everyGenerator _).1 hspared⟩, ⟨hnames, unresolved _ _ hnames⟩, hfits, hroll,
    finite hfits _ _ _ _ hroll⟩

end Expr

end Gamebook
