import Gamebook.Markup.Source
import Gamebook.Number.Written

/-!
# Diagnostics

What can be wrong with the source of a story. A story is read to its end in any case; an error is
about content that could not be understood, a warning about content that may be meant otherwise.
Main definitions: `Problem`, `Diagnostic`, `summary`.
-/

namespace Gamebook.Markup

/-- How bad a problem is. -/
inductive Severity where
  /-- Content could not be understood. -/
  | error
  /-- Content may be meant otherwise. -/
  | warning
  deriving DecidableEq, Repr

/-- The name of a severity. -/
def Severity.name : Severity → String
  | error => "error"
  | warning => "warning"

/-- Where a condition was still open that should be closed. -/
inductive StillOpen where
  /-- At the next heading. -/
  | heading
  /-- At the start of the next condition. -/
  | condition
  /-- At the last code before the next condition, or of all. -/
  | lastCode
  /-- At the end of the story. -/
  | storyEnd
  deriving DecidableEq, Repr

/-- Something that is wrong with the source of a story. -/
inductive Problem where
  /-- A condition that is not closed. -/
  | unclosed (where_ : StillOpen)
  /-- A second title. -/
  | secondTitle
  /-- A section with the id of one before it. -/
  | sameId (id : String) (first : Span)
  /-- A condition without an expression. -/
  | noExpression
  /-- A second else sign of a condition. -/
  | secondElse
  /-- Code that is no marker. -/
  | noMarker
  /-- An else sign or closing brace outside of conditions. -/
  | strayMarker (code : String)
  /-- A block of code that is no state. -/
  | noState (message : String)
  /-- A link to a section that does not exist. -/
  | noSection (target : String)
  deriving DecidableEq, Repr

namespace Problem

/-- How bad a problem is. -/
def severity : Problem → Severity
  | noExpression => .error
  | strayMarker _ => .error
  | noState _ => .error
  | _ => .warning

/-- The wording of a problem. -/
def message : Problem → String
  | unclosed .heading => "condition is not closed before the next heading"
  | unclosed .condition => "condition is not closed before the next condition"
  | unclosed .lastCode => "condition has no closing \x60\x7d\x60"
  | unclosed .storyEnd => "condition is not closed at the end of the story"
  | secondTitle => "story title is set more than once"
  | sameId id _ => "duplicate section id \x60" ++ id ++ "\x60"
  | noExpression => "condition has no expression"
  | secondElse => "condition already has an else branch"
  | noMarker => "inline code is not a condition marker"
  | strayMarker code => "\x60" ++ code ++ "\x60 does not belong to a condition"
  | noState message => message
  | noSection target => "link target \x60" ++ target ++ "\x60 matches no section"

/-- The remark at the place of a problem. -/
def label? : Problem → Option String
  | unclosed _ => some "opened here"
  | sameId _ _ => some "declared again here"
  | noExpression => some "expected an expression before \x60\x7b\x60"
  | noMarker =>
    some "expected \x60expression \x7b\x60, \x60\x7d:\x7b\x60 or \x60\x7d\x60"
  | strayMarker _ => some "no condition is open here"
  | noState _ => some "this block is not a JSON5 object"
  | _ => none

/-- Another place that a problem has to do with, and the remark there. -/
def related? : Problem → Option (Span × String)
  | sameId _ first => some (first, "first declared here")
  | _ => none

end Problem

/-- A problem and its place. -/
structure Diagnostic where
  /-- The problem. -/
  problem : Problem
  /-- The place in the source. -/
  span : Span
  deriving DecidableEq, Repr

/-- Whether a diagnostic is an error. -/
def Diagnostic.isError (d : Diagnostic) : Bool :=
  d.problem.severity == .error

/-- The diagnostic as a line. -/
def Diagnostic.display (d : Diagnostic) : String :=
  d.problem.severity.name ++ ": " ++ d.problem.message

/-- A number of things. -/
def counted (n : Nat) (word : String) : String :=
  .ofList (Number.natText n) ++ " " ++ word ++ if n = 1 then "" else "s"

/-- How many errors and warnings there are, unless there is none. -/
def summary? (diagnostics : List Diagnostic) : Option String :=
  let errors := diagnostics.countP Diagnostic.isError
  let warnings := diagnostics.length - errors
  if errors = 0 then if warnings = 0 then none else some (counted warnings "warning")
  else some (counted errors "error" ++ ", " ++ counted warnings "warning")

end Gamebook.Markup
