import Gamebook.Story.Basic
import Gamebook.Text.Split

/-!
# Flowcharts

The sections of a story and the ways between them as a Mermaid flowchart: a node for each section,
marked if it holds an action or a condition, an arrow for each way on, and a dotted arrow for the
first way on inside the first branch of a condition. Main definition: `Story.flowchart`.
-/

namespace Gamebook

/-- A text inside of quotes. -/
def flowchartLabel (text : String) : String :=
  .ofList (Text.replaceChar '\x22' "#quot;".toList text.toList)

/-- The line of an arrow. -/
def flowchartArrow (source arrow label target : String) : String :=
  "    " ++ source ++ " " ++ arrow ++ "|\x22" ++ flowchartLabel label ++ "\x22| " ++ target ++ "\n"

/-- The arrow that a part of a section stands for. -/
def Part.flowchartLine (source : String) (part : Part) : String :=
  match part with
  | link l => flowchartArrow source "-->" l.text (targetName l.target)
  | navigation text target => flowchartArrow source "-->" text (targetName target)
  | condition c whenTrue _ =>
    match whenTrue.findSome? linkTarget? with
    | some target => flowchartArrow source "-.->" c.expression target
    | none => ""
  | _ => ""

/-- The lines of a section. -/
def Section.flowchartLines (s : Section) : String :=
  let marks := (if s.hasAction then " ⭐" else "") ++ (if s.hasCondition then " ⎇" else "")
  "    " ++ s.id ++ "[\x22" ++ flowchartLabel s.heading ++ marks ++ "\x22]\n" ++
    "    click " ++ s.id ++ " \x22#" ++ s.id ++ "\x22\n" ++
    String.join (s.parts.map (Part.flowchartLine s.id))

/-- The flowchart of a story. -/
def Story.flowchart (story : Story) : String :=
  "flowchart TD\n" ++ String.join (story.sections.map Section.flowchartLines)

end Gamebook
