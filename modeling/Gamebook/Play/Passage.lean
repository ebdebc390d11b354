import Gamebook.Rules.Assignment
import Gamebook.Rules.Decision

/-!
# Passages

A section is read part by part: texts are filled in, actions change the state, and of a condition
the branch that holds is read after it. Settings lie under the state meanwhile and are taken out
of it at the end. Main definitions: `Part.read`, `Section.resolve`, `narration`.
-/

namespace Gamebook

/-- What reading some parts gives: the parts to show, the leaves, and the generator. -/
structure Reading where
  /-- The parts to show. -/
  parts : List Part
  /-- The leaves. -/
  sheet : Sheet
  /-- The generator. -/
  generator : Generator

namespace Part

mutual

/-- Reads a part. -/
def read (sheet : Sheet) (g : Generator) : Part → Reading
  | comment _ => ⟨[], sheet, g⟩
  | paragraph text quoting => ⟨[paragraph (substitute sheet text) quoting], sheet, g⟩
  | action a =>
    let (applied, g) := a.run sheet g
    ⟨[action (a.audited applied.audit)], applied.sheet, g⟩
  | condition c whenTrue whenFalse =>
    let (decision, g) := decideCondition c.expression sheet g
    let shown := condition { c with audit := some decision.audit } whenTrue whenFalse
    let reading := if decision.holds then readAll sheet g whenTrue else readAll sheet g whenFalse
    ⟨shown :: reading.parts, reading.sheet, reading.generator⟩
  | part => ⟨[part], sheet, g⟩

/-- Reads parts one after the other. -/
def readAll (sheet : Sheet) (g : Generator) : List Part → Reading
  | [] => ⟨[], sheet, g⟩
  | part :: parts =>
    let first := part.read sheet g
    let rest := readAll first.sheet first.generator parts
    ⟨first.parts ++ rest.parts, rest.sheet, rest.generator⟩

end

/-- The text that a narrator reads of a part. -/
def narrated? : Part → Option String
  | paragraph text _ => some text
  | _ => none

end Part

/-- The texts of the paragraphs among some parts. -/
def narration (parts : List Part) : String :=
  " ".intercalate (parts.filterMap Part.narrated?)

/-- A section that has been read. -/
structure Passage where
  /-- The parts to show. -/
  parts : List Part
  /-- The state without the settings. -/
  state : State
  /-- The text for a narrator. -/
  narration : String

/-- Reads a section with the settings under the state. -/
def Section.resolve (s : Section) (state settings : State) (g : Generator) : Passage × Generator :=
  let defaults := settings.flatten
  let reading := Part.readAll (defaults.overlay state.flatten) g s.parts
  (⟨reading.parts, (reading.sheet.without defaults).rebuild, narration reading.parts⟩,
    reading.generator)

end Gamebook
