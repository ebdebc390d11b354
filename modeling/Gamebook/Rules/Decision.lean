import Gamebook.Dice.Roll
import Gamebook.Rules.Substitution

/-!
# Decisions

A condition is decided by the value of its expression; one that has no value does not hold. Main
definition: `decideCondition`.
-/

namespace Gamebook

/-- Whether a condition holds, and how that was found. -/
structure Decision where
  /-- Whether the condition holds. -/
  holds : Bool
  /-- The condition, the expression that was evaluated, and its value. -/
  audit : String
  deriving DecidableEq, Repr

/-- The expression of a condition without blanks, and with words for the doubled signs. -/
def conditionText (sheet : Sheet) (condition : String) : String :=
  let compact := Text.removeBlanks (substitute sheet condition).toList
  .ofList (Text.replaceDouble '|' " or ".toList (Text.replaceDouble '&' " and ".toList compact))

/-- Decides a condition. -/
def decideCondition (condition : String) (sheet : Sheet) (g : Generator) : Decision × Generator :=
  let (rolled, g) := rollTerms (conditionText sheet condition) g
  let (holds, result) :=
    match evaluateText rolled.text with
    | .ok v => (v.truthy, v.display)
    | .error _ => (false, rolled.text)
  (⟨holds, condition ++ " -> " ++ rolled.text ++ " -> " ++ result⟩, g)

end Gamebook
