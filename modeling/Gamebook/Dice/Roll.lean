import Gamebook.Dice.Generator
import Gamebook.Expr.Value

/-!
# Rolling expressions

An expression with dice is rolled from the left: every group of dice that is reached is drawn, and
its total counts as a number. In a text, the terms in square brackets are rolled. Main definitions:
`Expr.roll`, `rollText`, `rollTerms`.
-/

namespace Gamebook

/-- The value of an expression and the groups rolled for it. -/
structure Rolled where
  /-- The value. -/
  value : Value
  /-- The groups in order. -/
  groups : List Group
  deriving DecidableEq

/-- Draws the dice of one group. -/
def Group.draw (count sides : Nat) (g : Generator) : Except Expr.Fault Group × Generator :=
  if maxDice < count then (.error (.tooManyDice count), g)
  else if sides = 0 then (.error (.invalidDice (Expr.diceText count sides)), g)
  else
    let (faces, g) := g.dice sides count
    (.ok ⟨sides, faces⟩, g)

namespace Expr

/-- The value of an expression whose dice are drawn where they are reached. -/
def rollValue : Expr → Generator → Except Fault Rolled × Generator
  | number x, g => ((Value.finite x).map (⟨·, []⟩), g)
  | bool b, g => (.ok ⟨.bool b, []⟩, g)
  | var name, g => (.error (.unresolved name), g)
  | dice count sides, g =>
    match Group.draw count sides g with
    | (.error fault, g) => (.error fault, g)
    | (.ok group, g) => (.ok ⟨.number (.ofNat group.total), [group]⟩, g)
  | unary op operand, g =>
    match operand.rollValue g with
    | (.error fault, g) => (.error fault, g)
    | (.ok r, g) => ((op.apply r.value).map (⟨·, r.groups⟩), g)
  | binary op left right, g =>
    match left.rollValue g with
    | (.error fault, g) => (.error fault, g)
    | (.ok a, g) =>
      match op.shortcut? a.value with
      | some v => (.ok ⟨v, a.groups⟩, g)
      | none =>
        match right.rollValue g with
        | (.error fault, g) => (.error fault, g)
        | (.ok b, g) => ((op.apply a.value b.value).map (⟨·, a.groups ++ b.groups⟩), g)

/-- The value of an expression with dice; a variable anywhere in it is a fault. -/
def roll (e : Expr) (g : Generator) : Except Fault Rolled × Generator :=
  match e.firstVariable? with
  | some name => (.error (.unresolved name), g)
  | none => e.rollValue g

end Expr

/-- The total of a rolled expression. -/
def Rolled.total (rolled : Rolled) : Float :=
  rolled.value.toNumber

/-- The faces of all groups. -/
def Rolled.audit (rolled : Rolled) : String :=
  String.join (rolled.groups.map Group.text)

/-- The faces of all groups and the total. -/
def Rolled.display (rolled : Rolled) : String :=
  rolled.audit ++ " = " ++ Number.display rolled.total

/-- Rolls a text that is an expression. -/
def rollText (text : String) (g : Generator) : Except Expr.Fault Rolled × Generator :=
  match Expr.read text with
  | .error fault => (.error (.invalidDice (text ++ ": " ++ fault.message)), g)
  | .ok e => e.roll g

/-- A text whose terms are rolled, and how. -/
structure RolledText where
  /-- The text. -/
  text : String
  /-- The faces of all groups, or what is wrong with a term; none if no group was rolled. -/
  trail : Option String
  deriving DecidableEq, Repr

/-- The parts of a text before, inside and after its first term in square brackets. -/
def cutTerm? (cs : List Char) : Option (List Char × List Char × List Char) := do
  let (before, rest) ← Text.cutAtFirst? '[' cs
  let (term, after) ← Text.cutAtFirst? ']' rest
  return (before, term, after)

/-- A text after a term is shorter. -/
theorem cutTerm?_length {cs before term after : List Char}
    (h : cutTerm? cs = some (before, term, after)) : after.length < cs.length := by
  simp only [cutTerm?, Option.pure_def, Option.bind_eq_bind, Option.bind_eq_some_iff,
    Option.some.injEq, Prod.mk.injEq, Prod.exists] at h
  obtain ⟨b, r, hb, t, a, ha, rfl, rfl, rfl⟩ := h
  have hb := (Text.cutAtFirst?_eq_some hb).1
  have ha := (Text.cutAtFirst?_eq_some ha).1
  subst hb ha
  simp only [List.length_append, List.length_cons]
  omega

/-- The text and the groups of all terms, or the fault of the first term that does not roll. -/
def rollTermsFrom (cs : List Char) (g : Generator) :
    Except Expr.Fault (List Char × List Group) × Generator :=
  match _h : cutTerm? cs with
  | none => (.ok (cs, []), g)
  | some (before, term, after) =>
    match rollText (.ofList term) g with
    | (.error fault, g) => (.error fault, g)
    | (.ok rolled, g) =>
      match rollTermsFrom after g with
      | (.error fault, g) => (.error fault, g)
      | (.ok (text, groups), g) =>
        (.ok (before ++ (Number.display rolled.total).toList ++ text, rolled.groups ++ groups), g)
termination_by cs.length
decreasing_by exact cutTerm?_length _h

/-- Rolls the terms of a text from the left; if one does not roll, the text stays as it is. -/
def rollTerms (text : String) (g : Generator) : RolledText × Generator :=
  match rollTermsFrom text.toList g with
  | (.error fault, g) => (⟨text, some fault.message⟩, g)
  | (.ok (text, groups), g) =>
    (⟨.ofList text, if groups.isEmpty then none else some (String.join (groups.map Group.text))⟩, g)

end Gamebook
