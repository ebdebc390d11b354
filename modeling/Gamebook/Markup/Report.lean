import Gamebook.Markup.Diagnostic

/-!
# Reports

A diagnostic as it is shown to an author: a headline, and the line and column of its place. The
offset of a span is taken as a number of characters, so places after characters beyond ASCII are off
to the right, and a place may lie outside of the source. Main definitions: `placeOf?`,
`Diagnostic.headline`, `Diagnostic.location?`.
-/

namespace Gamebook.Markup

/-- A place in a source, counted from one. -/
structure Place where
  /-- The line. -/
  line : Nat
  /-- The column. -/
  column : Nat
  deriving DecidableEq, Repr

/-- Whether a character ends a line of a report. -/
def endsReportLine (c : Char) : Bool :=
  c == '\n' || c == '\r' || c == '\x0b' || c == '\x0c' || c == '\x85' || c == '\u2028' ||
    c == '\u2029'

/-- The place a number of characters further on. The last line of a source is not followed by an
empty one. -/
def placeFrom? (place : Place) : (offset : Nat) → List Char → Option Place
  | 0, _ => some place
  | _ + 1, [] => none
  | offset + 1, c :: cs =>
    let ends := endsReportLine c && !(c == '\r' && cs.head? == some '\n') && !cs.isEmpty
    placeFrom? (if ends then ⟨place.line + 1, 1⟩ else ⟨place.line, place.column + 1⟩) offset cs

/-- The place of a character. -/
def placeOf? (source : List Char) (offset : Nat) : Option Place :=
  placeFrom? ⟨1, 1⟩ offset source

/-- Whether a span can be shown: it starts and its last character lies inside of the source. -/
def Span.isShown (size : Nat) (span : Span) : Bool :=
  span.start ≤ size && (span.stop ≤ span.start || span.stop - 1 ≤ size)

/-- The name of a severity in a headline. -/
def Severity.title : Severity → String
  | error => "Error"
  | warning => "Warning"

/-- The first line of a report. -/
def Diagnostic.headline (d : Diagnostic) : String :=
  d.problem.severity.title ++ ": " ++ .ofList (d.problem.message.toList.takeWhile (· != '\n'))

/-- The place of a diagnostic as text, unless neither it nor a related place can be shown. -/
def Diagnostic.location? (file : String) (source : List Char) (d : Diagnostic) : Option String :=
  let related := d.problem.related?.map (·.1)
  if (d.span :: related.toList).any (Span.isShown source.length) then
    let place :=
      match placeOf? source d.span.start with
      | some place => Number.natText place.line ++ ':' :: Number.natText place.column
      | none => ['?', ':', '?']
    some (file ++ ":" ++ .ofList place)
  else none

end Gamebook.Markup
