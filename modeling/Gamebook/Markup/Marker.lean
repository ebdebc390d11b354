import Gamebook.Text.Blank
import Gamebook.Text.Split

/-!
# Markers

Code inside of a line marks the parts of a story that Markdown has no form for: conditions start with
an expression and an opening brace, have an else sign between their branches and end with a closing
brace, and an arrow before a link is a way on. Main definitions: `Marker`, `Marker.ofCode`,
`startsCondition`.
-/

namespace Gamebook.Markup

/-- What code inside of a line means. -/
inductive Marker where
  /-- A way on. -/
  | navigation (text target : List Char)
  /-- The start of a condition with its expression. -/
  | opening (expression : List Char)
  /-- The end of the first branch and the start of the second one. -/
  | otherwise
  /-- The end of a condition. -/
  | closing
  /-- Nothing. -/
  | plain
  deriving DecidableEq, Repr

/-- The text and the target of a way on. One blank may stand after the arrow. -/
def navigation? (code : List Char) : Option (List Char × List Char) := do
  let rest ← Text.dropPrefix? ['-', '>'] code
  let rest :=
    match rest with
    | c :: cs => if Text.isBlank c then cs else rest
    | [] => []
  let rest ← Text.dropPrefix? ['['] rest
  let (text, rest) ← Text.cutAtFirst? ']' rest
  let rest ← Text.dropPrefix? ['('] rest
  let (target, _) ← Text.cutAtFirst? ')' rest
  some (text, target)

/-- Whether code is an else sign, with blanks anywhere. -/
def isElseSign (code : List Char) : Bool :=
  Text.removeBlanks code == ['}', ':', '{']

/-- The expression before an opening brace. -/
def conditionStart? (code : List Char) : Option (List Char) :=
  (Text.dropSuffix? ['{'] (Text.trimEnd code)).map Text.trim

/-- Whether code starts a condition. -/
def startsCondition (code : List Char) : Bool :=
  !isElseSign code && (conditionStart? code).isSome

/-- What code means. -/
def Marker.ofCode (code : List Char) : Marker :=
  match navigation? code with
  | some (text, target) => .navigation text target
  | none =>
    if isElseSign code then .otherwise
    else
      match conditionStart? code with
      | some expression => .opening expression
      | none => if (Text.dropSuffix? ['}'] (Text.trimEnd code)).isSome then .closing else .plain

end Gamebook.Markup
