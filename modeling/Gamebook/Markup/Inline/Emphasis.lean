import Gamebook.Markup.Inline.Basic
import Gamebook.Markup.Piece
import Gamebook.Text.Utf8

/-!
# Emphasis

Runs of emphasis signs are paired like brackets, but the signs stay in the text as they are. Only
where one tilde closes another, the text repeats the sign next to each of the two. Main definitions:
`strikes`, `settleRuns`.
-/

namespace Gamebook.Markup

namespace Run

/-- Whether a run may start emphasis. -/
def opens (run : Run) : Bool :=
  opensEmphasis run.sign run.count run.before run.after

/-- Whether a run may end emphasis. -/
def closes (run : Run) : Bool :=
  closesEmphasis run.sign run.count run.before run.after

/-- Whether a run may start and end emphasis. -/
def isBoth (run : Run) : Bool :=
  run.opens && run.closes

/-- Whether emphasis that one run starts may end with another run. -/
def fits (opener closer : Run) : Bool :=
  opener.sign == closer.sign && (closer.sign != '~' || opener.count == closer.count) &&
    (!opener.isBoth && !closer.isBoth || (opener.count + closer.count) % 3 != 0 ||
      closer.count % 3 == 0)

end Run

/-- A run that may start emphasis. -/
structure Opener where
  /-- The run. -/
  run : Run
  /-- The offset of the run. -/
  start : Nat
  /-- How many of its signs are not used yet. -/
  left : Nat
  deriving DecidableEq, Repr

/-- The first opener that fits a run, and the openers after it. -/
def findOpener (closer : Run) : List Opener → Option (Opener × List Opener)
  | [] => none
  | opener :: openers =>
    if opener.run.fits closer then some (opener, openers) else findOpener closer openers

/-- The offsets of the two tildes of a pair. -/
structure Strike where
  /-- The offset of the first one. -/
  first : Nat
  /-- The offset of the second one. -/
  second : Nat
  deriving DecidableEq, Repr

/-- The pair of tildes that two runs make, if they are single tildes. -/
def strikesOf (opener : Opener) (closer : Run) (start : Nat) : List Strike :=
  if closer.sign = '~' ∧ closer.count = 1 then [⟨opener.start, start⟩] else []

/-- Uses `left` signs of a run to end emphasis, as far as there are openers. Gives the signs that are
left, the openers that are left and the pairs of tildes. Tildes that end nothing bar all tildes
before them. -/
def closeRun (closer : Run) (start : Nat) :
    (fuel left : Nat) → List Opener → Nat × List Opener × List Strike
  | 0, left, openers => (left, openers, [])
  | fuel + 1, left, openers =>
    if left = 0 then (0, openers, [])
    else
      match findOpener closer openers with
      | none =>
        let openers := if closer.sign = '~' then openers.filter (·.run.sign != '~') else openers
        (left, openers, [])
      | some (opener, below) =>
        let used := min left opener.left
        let openers :=
          if used < opener.left then { opener with left := opener.left - used } :: below else below
        let (left, openers, strikes) := closeRun closer start fuel (left - used) openers
        (left, openers, strikesOf opener closer start ++ strikes)

/-- The pairs of tildes among parts of a text that are next to each other. -/
def strikesFrom (openers : List Opener) : List Inline → List Strike
  | [] => []
  | .run run span :: rest =>
    let (left, openers, strikes) :=
      if run.closes then closeRun run span.start (run.count + 1) run.count openers
      else (run.count, openers, [])
    let openers := if run.opens && 0 < left then ⟨run, span.start, left⟩ :: openers else openers
    strikes ++ strikesFrom openers rest
  | _ :: rest => strikesFrom openers rest

/-- The pairs of tildes among the parts of a text. -/
def strikes (inlines : List Inline) : List Strike :=
  strikesFrom [] inlines

/-- A run as text. -/
def settleRun (strikes : List Strike) (run : Run) (span : Span) : Option Inline :=
  if strikes.any (·.first == span.start) then
    if Text.charSize run.after = 1 then
      some (.text [run.sign, run.after] ⟨span.start, span.stop + 1⟩)
    else none
  else if strikes.any (·.second == span.start) then
    if Text.charSize run.before = 1 then
      some (.text [run.before, run.sign] ⟨span.start - 1, span.stop⟩)
    else none
  else some (.text (.replicate run.count run.sign) span)

/-- The parts of a text with runs of signs as text. -/
def settleRuns (inlines : List Inline) : List Inline :=
  let strikes := strikes inlines
  inlines.filterMap fun
    | .run run span => settleRun strikes run span
    | part => some part

end Gamebook.Markup
