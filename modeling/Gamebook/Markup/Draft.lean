import Gamebook.Markup.Diagnostic
import Gamebook.Markup.Dialect
import Gamebook.Markup.Lexeme
import Gamebook.Markup.Marker
import Gamebook.State.Document
import Gamebook.Story.Basic

/-!
# From lexemes to stories

A story is put together from lexemes from left to right. Content goes to the open branch of the open
condition, else to the current section, else to the description; conditions do not hold one another.
Main definitions: `Draft` (a story in the making), `Draft.lexemes`, `Draft.finish`, `parse`.
-/

namespace Gamebook.Markup

/-- A condition that is not closed yet. -/
structure OpenCondition where
  /-- What it asks. -/
  condition : Condition
  /-- Whether content goes to the second branch. -/
  inElse : Bool
  /-- The first branch so far. -/
  whenTrue : List Part
  /-- The second branch so far. -/
  whenFalse : List Part
  /-- The place of its opening marker. -/
  span : Span

namespace OpenCondition

/-- A condition that has no content yet. -/
def start (condition : Condition) (span : Span) : OpenCondition :=
  ⟨condition, false, [], [], span⟩

/-- Adds content to the branch that is open. -/
def add (part : Part) (c : OpenCondition) : OpenCondition :=
  if c.inElse then { c with whenFalse := c.whenFalse ++ [part] }
  else { c with whenTrue := c.whenTrue ++ [part] }

/-- The condition as it is so far. -/
def toPart (c : OpenCondition) : Part :=
  .condition c.condition c.whenTrue c.whenFalse

end OpenCondition

/-- A paragraph that is not finished yet. -/
structure OpenParagraph where
  /-- The text so far. -/
  text : List Char
  /-- How it is set apart. -/
  quoting : Option Quoting
  deriving DecidableEq, Repr

/-- A story in the making. -/
structure Draft where
  /-- The title. -/
  title : Option String
  /-- The content outside of sections. -/
  description : List Part
  /-- The finished sections. -/
  sections : List Section
  /-- The section that content goes to. -/
  current : Option Section
  /-- The open paragraph. -/
  paragraph : Option OpenParagraph
  /-- The open condition. -/
  frame : Option OpenCondition
  /-- The ids of sections with the places of their first headings. -/
  headings : List (String × Span)
  /-- The targets of links with their places. -/
  targets : List (String × Span)
  /-- The problems found so far. -/
  diagnostics : List Diagnostic

/-- How a text at a place is set apart. -/
def quotingOf (l : Lexeme) : Option Quoting :=
  if l.quoted then some .blockquote else if l.listed then some .citation else none

/-- Whether the first of some lexemes goes on with a paragraph. -/
def continuesParagraph : List Lexeme → Bool
  | ⟨.text _, _, _, _⟩ :: _ => true
  | ⟨.softBreak, _, _, _⟩ :: _ => true
  | _ => false

/-- Whether the first of some lexemes is text. -/
def startsWithText : List Lexeme → Bool
  | ⟨.text _, _, _, _⟩ :: _ => true
  | _ => false

/-- The first code among lexemes. -/
def nextCode? : List Lexeme → Option (List Char)
  | [] => none
  | ⟨.code code, _, _, _⟩ :: _ => some code
  | _ :: rest => nextCode? rest

/-- What is wrong with a condition whose marker has no meaning. -/
def conditionError : String :=
  "Could not parse condition"

/-- The condition that keeps code that has no meaning. -/
def keptCode (code : List Char) : Part :=
  .condition ⟨"", none, some (.ofList code), some conditionError⟩ [] []

/-- What the lines start with that say what is wrong with a block. -/
def actionErrorStart : String :=
  "JSON5:"

/-- The lines of a block without those that say what is wrong with it. -/
def withoutErrors (content : List Char) : List Char :=
  ((Text.linesKept content).filter fun line =>
    (Text.dropPrefix? actionErrorStart.toList line).isNone).flatten

/-- The action of a block, or the action that keeps the block and what is wrong with it. -/
def actionOf (content : List Char) : Action :=
  let source := withoutErrors content
  match State.readRelaxed source with
  | .ok state => .setting state
  | .error mismatch =>
    let message := String.ofList (Text.singleSpaced (mismatch.message .relaxed).toList)
    { state := .empty
      audit := none
      source := some (.ofList source)
      error := some (actionErrorStart ++ " " ++ message) }

namespace Draft

/-- Nothing is read yet. -/
def empty : Draft :=
  ⟨none, [], [], none, none, none, [], [], []⟩

/-- Adds content where it belongs. -/
def emit (part : Part) (d : Draft) : Draft :=
  match d.frame, d.current with
  | some frame, _ => { d with frame := some (frame.add part) }
  | none, some s => { d with current := some { s with parts := s.parts ++ [part] } }
  | none, none => { d with description := d.description ++ [part] }

/-- Notes a problem. -/
def report (problem : Problem) (span : Span) (d : Draft) : Draft :=
  { d with diagnostics := d.diagnostics ++ [⟨problem, span⟩] }

/-- Notes the target of a link. -/
def noteTarget (target : String) (span : Span) (d : Draft) : Draft :=
  { d with targets := d.targets ++ [(target, span)] }

/-- Finishes the open paragraph; one without text is dropped. -/
def flush (d : Draft) : Draft :=
  match d.paragraph with
  | none => d
  | some ⟨text, quoting⟩ =>
    let d := { d with paragraph := none }
    match Text.trim text with
    | [] => d
    | text => d.emit (.paragraph (.ofList text) quoting)

/-- Adds the open condition to the content. -/
def closeFrame (d : Draft) : Draft :=
  match d.frame with
  | none => d
  | some frame => { d with frame := none }.emit frame.toPart

/-- Closes a condition that should have been closed before. -/
def abandonFrame (where_ : StillOpen) (d : Draft) : Draft :=
  match d.frame with
  | none => d
  | some frame => (d.report (.unclosed where_) frame.span).closeFrame

/-- Finishes the current section. -/
def finishSection (d : Draft) : Draft :=
  match d.current with
  | none => d
  | some s => { d with current := none, sections := d.sections ++ [s] }

/-- Sets the title. -/
def setTitle (text : String) (span : Span) (d : Draft) : Draft :=
  let d := if d.title.isSome then d.report .secondTitle span else d
  { d.finishSection with title := some text }

/-- The section that a heading starts, without its content. -/
def sectionOf (text : String) (anchor : Option (List Char)) : Section :=
  match anchor with
  | some (c :: cs) => { Section.ofHeading text with id := .ofList (c :: cs) }
  | _ => .ofHeading text

/-- Notes the heading of a section; ids should differ. -/
def noteHeading (id : String) (span : Span) (d : Draft) : Draft :=
  match d.headings.find? (·.1 == id) with
  | some (_, first) => d.report (.sameId id first) span
  | none => { d with headings := d.headings ++ [(id, span)] }

/-- Starts a section. Chapters repeat a heading of the second level as content. -/
def startSection (dialect : Dialect) (level : Nat) (text : String) (anchor : Option (List Char))
    (span : Span) (d : Draft) : Draft :=
  let made := sectionOf text anchor
  let parts := if level = 2 ∧ dialect = .chapter then [.header text] else []
  { d.finishSection.noteHeading made.id span with current := some { made with parts } }

/-- Reads a heading. -/
def heading (dialect : Dialect) (level : Nat) (text : String) (anchor : Option (List Char))
    (span : Span) (d : Draft) : Draft :=
  let d := d.flush.abandonFrame .heading
  if level = 1 then d.setTitle text span
  else if dialect.startsSection level then d.startSection dialect level text anchor span
  else d.emit (.header text)

/-- Starts a condition. -/
def openFrame (code expression : List Char) (span : Span) (d : Draft) : Draft :=
  let d := d.abandonFrame .condition
  match expression with
  | [] =>
    let condition := ⟨"", none, some (.ofList code), some conditionError⟩
    { d.report .noExpression span with frame := some (.start condition span) }
  | expression =>
    { d with frame := some (.start ⟨.ofList expression, none, none, none⟩ span) }

/-- Keeps a marker that does not belong to a condition. -/
def stray (code : List Char) (span : Span) (d : Draft) : Draft :=
  (d.report (.strayMarker (.ofList code)) span).emit (keptCode code)

/-- Goes on with the second branch of the open condition. -/
def enterElse (code : List Char) (span : Span) (d : Draft) : Draft :=
  match d.frame with
  | none => d.stray code span
  | some frame =>
    let d := { d with frame := some { frame with inElse := true } }
    if frame.inElse then d.report .secondElse span else d

/-- Closes a condition that no code before the next condition can close. -/
def closeLast (rest : List Lexeme) (d : Draft) : Draft :=
  match nextCode? rest with
  | none => d.abandonFrame .lastCode
  | some code => if startsCondition code then d.abandonFrame .lastCode else d

/-- Reads code; `rest` is what follows. -/
def code (code : List Char) (span : Span) (rest : List Lexeme) (d : Draft) : Draft :=
  match Marker.ofCode code with
  | .navigation text target =>
    (d.noteTarget (.ofList target) span).emit (.navigation (.ofList text) (.ofList target))
  | .opening expression => (d.openFrame code expression span).closeLast rest
  | .otherwise => (d.enterElse code span).closeLast rest
  | .closing => if d.frame.isSome then d.closeFrame else d.stray code span
  | .plain => ((d.report .noMarker span).emit (keptCode code)).closeLast rest

/-- Reads a block of code. -/
def fence (content : List Char) (span : Span) (d : Draft) : Draft :=
  let action := actionOf content
  let d :=
    match action.error with
    | some message => d.report (.noState message) span
    | none => d
  d.emit (.action action)

/-- Adds text to the open paragraph, or starts one. -/
def addText (text : List Char) (quoting : Option Quoting) (d : Draft) : Draft :=
  match d.paragraph with
  | some p => { d with paragraph := some { p with text := p.text ++ text } }
  | none => { d with paragraph := some ⟨text, quoting⟩ }

/-- Adds the end of a line to the open paragraph if text follows. -/
def softBreak (rest : List Lexeme) (d : Draft) : Draft :=
  match d.paragraph with
  | some p =>
    if startsWithText rest then { d with paragraph := some { p with text := p.text ++ ['\n'] } }
    else d
  | none => d

/-- Adds an image. -/
def image (alt url : List Char) (description : Option (List Char)) (d : Draft) : Draft :=
  let url := if url.isEmpty then none else some (.ofList url)
  d.emit (.image ⟨.ofList alt, url, description.map .ofList⟩)

/-- Reads a lexeme; `rest` is what follows. -/
def lexeme (dialect : Dialect) (l : Lexeme) (rest : List Lexeme) (d : Draft) : Draft :=
  match l.token with
  | .heading level text anchor => d.heading dialect level (.ofList text) anchor l.span
  | .text text => d.addText text (quotingOf l)
  | .softBreak => d.softBreak rest
  | .break => d
  | .image alt url => d.image alt url none
  | .link text href =>
    (d.noteTarget (.ofList href) l.span).emit (.link ⟨.ofList text, .ofList href, none⟩)
  | .code code => d.code code l.span rest
  | .fence _ content => d.fence content l.span
  | .comment text => d.emit (.comment (.ofList text))

/-- Finishes the open paragraph unless the next lexeme goes on with it. -/
def settle (rest : List Lexeme) (d : Draft) : Draft :=
  if continuesParagraph rest then d else d.flush

/-- Reads lexemes. A comment right after an image describes it. -/
def lexemes (dialect : Dialect) (d : Draft) : List Lexeme → Draft
  | [] => d
  | ⟨.image alt url, _, _, _⟩ :: ⟨.comment text, _, _, _⟩ :: rest =>
    ((d.image alt url (some text)).settle rest).lexemes dialect rest
  | l :: rest => ((d.lexeme dialect l rest).settle rest).lexemes dialect rest

/-- Notes the links that lead to no section. -/
def checkLinks (d : Draft) : Draft :=
  let isDangling (target : String) : Bool :=
    match target.toList with
    | '#' :: id => !d.headings.any (·.1 == .ofList id)
    | _ => false
  let found := d.targets.filterMap fun (target, span) =>
    if isDangling target then some ⟨.noSection target, span⟩ else none
  { d with diagnostics := d.diagnostics ++ found }

/-- Closes what is still open. -/
def close (d : Draft) : Draft :=
  ((d.flush.abandonFrame .storyEnd).finishSection).checkLinks

end Draft

/-- The first action among parts, and the parts without it. -/
def takeAction : List Part → Option Action × List Part
  | [] => (none, [])
  | .action action :: parts => (some action, parts)
  | part :: parts =>
    let (action, parts) := takeAction parts
    (action, part :: parts)

/-- A story and the problems of its source. -/
structure Parsed where
  /-- The story. -/
  story : Story
  /-- The problems in the order in which they are found. -/
  diagnostics : List Diagnostic

/-- The story of a draft: the first action of the description is the settings. -/
def Draft.finish (d : Draft) : Parsed :=
  let d := d.close
  let (settings, description) := takeAction d.description
  let story : Story :=
    { title := d.title.getD ""
      description
      settings := settings.getD (.setting .empty)
      sections := d.sections
      images := [] }
  ⟨story.indexImages, d.diagnostics⟩

/-- The story that lexemes make up. -/
def assemble (dialect : Dialect) (lexemes : List Lexeme) : Parsed :=
  (Draft.empty.lexemes dialect lexemes).finish

/-- The story of a source. -/
def parse (dialect : Dialect) (source : String) : Parsed :=
  assemble dialect (lexemesOf source.toList)

end Gamebook.Markup
