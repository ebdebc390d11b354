import Gamebook.Command.Table
import Gamebook.Play.Screen
import Gamebook.Text.Split

/-!
# What readers see

Parts, choices and sections as text for a terminal. Main definitions: `displayParts`,
`displayChoices`, `Story.sectionTable`.
-/

namespace Gamebook.Command

/-- The lines of a text without their ends; there is none after the last end. -/
def textLines (text : String) : List (List Char) :=
  (Text.linesKept text.toList).map fun line =>
    match Text.dropSuffix? ['\n'] line with
    | some line => (Text.dropSuffix? ['\r'] line).getD line
    | none => line

/-- A line in a block of its own. -/
def displayLine (text : String) : String :=
  "  " ++ text ++ "\n\n"

/-- A paragraph with the sign of its quoting. -/
def displayParagraph (text : String) (quoting : Option Quoting) : String :=
  let sign :=
    match quoting with
    | some .blockquote => "> "
    | some .citation => "- "
    | none => ""
  String.join ((textLines (sign ++ text)).map fun line => "  " ++ .ofList line ++ "\n") ++ "\n"

/-- What went wrong, or else how it went, if either is known. -/
def displayNote (error audit : Option String) : String :=
  match error.or audit with
  | some text => displayLine text
  | none => ""

/-- A part. The ways on are listed after all parts. -/
def displayPart : Part → String
  | .header text => displayLine text
  | .paragraph text quoting => displayParagraph text quoting
  | .image image => displayLine ("[image: " ++ image.text ++ "]")
  | .action action => displayNote action.error action.audit
  | .condition condition _ _ => displayNote condition.error condition.audit
  | .link _ => ""
  | .navigation _ _ => ""
  | .comment _ => ""

/-- Parts one after the other. -/
def displayParts (parts : List Part) : String :=
  String.join (parts.map displayPart)

/-- A number in decimal digits. -/
def decimal (n : Nat) : String :=
  .ofList (Number.natText n)

/-- Choices with numbers from `n` on. -/
def numberedChoices (n : Nat) : List Choice → String
  | [] => ""
  | choice :: choices =>
    "  " ++ decimal n ++ ". " ++ choice.text ++ " (#" ++ choice.target ++ ")\n" ++
      numberedChoices (n + 1) choices

/-- The choices of a screen. -/
def displayChoices (choices : List Choice) : String :=
  numberedChoices 1 choices ++ "\n"

end Gamebook.Command

namespace Gamebook

open Command

/-- The row of a section in a table. -/
def Section.tableRow (s : Section) : List String :=
  let targets := s.links.filterMap fun part => part.linkTarget?.map ("#" ++ ·)
  let ways := if targets.isEmpty then "—" else ", ".intercalate targets
  [s.id, s.heading, decimal s.parts.length, ways]

/-- The sections of a story as a table. -/
def Story.sectionTable (story : Story) : Table :=
  ⟨["Id", "Heading", "Parts", "Links"], story.sections.map Section.tableRow⟩

end Gamebook
