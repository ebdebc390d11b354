import Gamebook.Markup.Draft
import Gamebook.Markup.Flowchart

/-!
# Writing stories

A story is written as a document that reads back as the story: ids stand in comments of headings,
and blocks and markers that have no meaning are written as they were found. Main definitions:
`Part.markdown`, `Part.markdownAll`, `Section.markdown`, `Story.markdown`.
-/

namespace Gamebook

open Markup

/-- The lines in the block of an action. -/
def Action.blockText (action : Action) : List Char :=
  match action.source with
  | none => action.state.toJson.prettyChars 0
  | some source =>
    let source := source.toList
    let error := (action.error.getD "").toList
    if source.isEmpty || source.getLast? == some '\n' then source ++ error
    else source ++ '\n' :: error

/-- An action as a block of code. -/
def Action.markdown (action : Action) : List Char :=
  let body := Text.dropEndWhile (· == '\n') action.blockText
  "\x60\x60\x60json\n".toList ++ body ++ "\n\x60\x60\x60".toList

/-- An image. -/
def Image.markdown (image : Image) : List Char :=
  let description :=
    match image.description with
    | none => []
    | some text => "<!--- ".toList ++ text.toList ++ " -->".toList
  '!' :: '[' :: image.text.toList ++ ']' :: '(' :: (image.url.getD "").toList ++ ')' :: description

/-- The marker that opens a condition, or the code that is kept in place of a condition. -/
def Condition.opener (condition : Condition) : List Char :=
  match condition.source with
  | some source => source.toList
  | none => condition.expression.toList ++ [' ', '{']

/-- Whether a condition keeps code that opens no condition. -/
def Condition.isKept (condition : Condition) : Bool :=
  condition.source.any fun source => !startsCondition source.toList

/-- Code in a block of its own. -/
def codeBlock (code : List Char) : List Char :=
  '\x60' :: code ++ ['\x60', '\n', '\n']

/-- The sign before a paragraph. -/
def Quoting.sign : Option Quoting → List Char
  | some .blockquote => ['>', ' ']
  | some .citation => ['-', ' ']
  | none => []

/-- Whether the first of some parts is a link. -/
def startsWithLink : List Part → Bool
  | .link _ :: _ => true
  | _ => false

namespace Part

mutual

/-- A part with the blank line after it; links in a row have none. -/
def markdown (dialect : Dialect) (beforeLink : Bool) : Part → List Char
  | paragraph text quoting => Quoting.sign quoting ++ text.toList ++ ['\n', '\n']
  | comment text => "<!--- ".toList ++ text.toList ++ " -->\n\n".toList
  | image i => i.markdown ++ ['\n', '\n']
  | link l =>
    "- [".toList ++ l.text.toList ++ ']' :: '(' :: l.target.toList ++
      ')' :: (if beforeLink then ['\n'] else ['\n', '\n'])
  | navigation text target =>
    codeBlock ('-' :: '>' :: '[' :: text.toList ++ ']' :: '(' :: target.toList ++ [')'])
  | action a => a.markdown ++ ['\n', '\n']
  | condition c whenTrue whenFalse =>
    if c.isKept then codeBlock c.opener
    else
      codeBlock c.opener ++ markdownAll dialect whenTrue ++
        (if whenFalse.isEmpty then []
          else codeBlock ['}', ':', '{'] ++ markdownAll dialect whenFalse) ++
        codeBlock ['}']
  | header text =>
    match dialect with
    | .scene => "## ".toList ++ text.toList ++ ['\n', '\n']
    | .chapter => []

/-- Parts one after the other. -/
def markdownAll (dialect : Dialect) : List Part → List Char
  | [] => []
  | part :: parts => part.markdown dialect (startsWithLink parts) ++ markdownAll dialect parts

end

end Part

/-- The parts of a section after a header that repeats its heading, if chapters show it. -/
def Section.shownParts? (dialect : Dialect) (s : Section) : Option (List Part) :=
  match dialect, s.parts with
  | .chapter, .header text :: parts => if text = s.heading then some parts else none
  | _, _ => none

/-- A section with its heading. -/
def Section.markdown (dialect : Dialect) (s : Section) : List Char :=
  let (sign, parts) :=
    match s.shownParts? dialect with
    | some parts => ("##", parts)
    | none => ("###", s.parts)
  sign.toList ++ ' ' :: s.heading.toList ++ " <!--- #".toList ++ s.id.toList ++ " -->\n\n".toList ++
    Part.markdownAll dialect parts

/-- The block of a flowchart. -/
def Story.flowchartBlock (story : Story) : List Char :=
  flowchartNotice.toList ++ "\n\x60\x60\x60".toList ++ flowchartInfo.toList ++ '\n' ::
    story.flowchart.toList ++ "\x60\x60\x60\n".toList

/-- A story, with its flowchart at the end if that is wanted. -/
def Story.markdown (dialect : Dialect) (withFlowchart : Bool) (story : Story) : String :=
  let title := if story.title = "" then [] else "# ".toList ++ story.title.toList ++ ['\n', '\n']
  let settings := if story.settings.isEmpty then [] else story.settings.markdown ++ ['\n', '\n']
  let sections := story.sections.flatMap (·.markdown dialect)
  let flowchart := if withFlowchart then story.flowchartBlock else []
  .ofList (title ++ settings ++ Part.markdownAll dialect story.description ++ sections ++ flowchart)

end Gamebook
