import Gamebook.Command.Files
import Gamebook.Command.Game
import Gamebook.Dice.Roll
import Gamebook.Json.Sorted
import Gamebook.Markup.Printer
import Gamebook.Markup.Report
import Gamebook.Story.Document

/-!
# Running commands

What each command prints and writes. Main definitions: `Output`, `Task.run`, `Command.perform`.
-/

namespace Gamebook

open Command Markup

/-- What a command gives. -/
structure Output where
  /-- The text that it prints. -/
  text : String
  /-- A file that it writes first: its path and text. -/
  file : Option (String × String)
  deriving DecidableEq, Repr

/-- An output that is only printed. -/
def Output.ofText (text : String) : Output :=
  ⟨text, none⟩

/-- Counts what is in a story without errors. -/
def checkText (file : String) (story : Story) : String :=
  let name := if story.title = "" then file else story.title
  let links := (story.sections.flatMap Section.links).length
  "  All checks passed for '" ++ name ++ "'.\n  " ++ decimal story.sections.length ++ " sections, " ++
    decimal links ++ " links, " ++ decimal story.images.length ++ " images\n"

/-- Lists the sections of a story. -/
def sectionsText (story : Story) : String :=
  if story.sections.isEmpty then "  No sections found.\n"
  else
    String.join (story.sectionTable.lines.map (· ++ "\n")) ++ "\n  " ++
      decimal story.sections.length ++ " sections\n"

/-- The text of a story in a format. -/
def Export.content (settings : Export) (dialect : Dialect) (story : Story) :
    Except String String :=
  if settings.format = "json" then .ok (story.toJson.pretty ++ "\n")
  else if settings.format = "markdown" ∨ settings.format = "md" then
    .ok (story.markdown dialect settings.flowchart)
  else .error ("unsupported format: \x22" ++ settings.format ++ "\x22. Use: json, markdown")

/-- Writes a story out. -/
def Export.output (settings : Export) (dialect : Dialect) (story : Story) :
    Except String Output := do
  let content ← settings.content dialect story
  match settings.file with
  | none => return .ofText content
  | some path => return ⟨"  Exported to " ++ path ++ "\n", some (path, content)⟩

/-- A screen as a JSON document with sorted fields. -/
def Screen.document (screen : Screen) : Json :=
  let origin :=
    match screen.origin with
    | some s => Json.str s.id
    | none => .null
  (Json.obj [("section", origin), ("parts", .arr (Part.toJsonAll screen.parts)),
    ("state", screen.state.toJson), ("narration", .str screen.narration)]).sorted

/-- A screen as text, with its state. -/
def Screen.text (screen : Screen) : String :=
  displayParts screen.parts ++
    (if screen.choices.isEmpty then "" else displayChoices screen.choices) ++
    "  State: " ++ screen.state.query ++ "\n"

/-- Shows a screen. -/
def Resolution.output (settings : Resolution) (story : Story) (chance : Generator) :
    Except String Output :=
  let id := String.ofList (settings.target.toList.dropWhile (· == '#'))
  match story.section? id with
  | none => .error ("section '" ++ id ++ "' not found")
  | some _ =>
    match State.ofPayload (settings.state.getD "") with
    | .error fault => .error fault.message
    | .ok state =>
      let config := Config.withMaxDepth {} settings.maxDepth
      let generator := generatorOf settings.seed chance
      let (screen, _) := story.resolveNext config id state generator
      .ok (.ofText (if settings.json then screen.document.pretty ++ "\n" else screen.text))

/-- Does something with a story; `lines` are what a player answers. -/
def Task.run (task : Task) (file : String) (dialect : Dialect) (parsed : Parsed)
    (lines : List String) (chance : Generator) : Except String Output :=
  let story := parsed.story
  match task with
  | check =>
    if parsed.diagnostics.any Diagnostic.isError then .error "story has errors"
    else .ok (.ofText (checkText file story))
  | sections => .ok (.ofText (sectionsText story))
  | writeOut settings => settings.output dialect story
  | graph => .ok (.ofText story.flowchart)
  | resolve settings => settings.output story chance
  | play settings =>
    (settings.session story chance).map fun session => .ofText (playText session lines)

/-- Rolls dice. -/
def rollOutput (expression : String) (seed : Option Nat) (chance : Generator) :
    Except String Output :=
  match rollText expression (generatorOf seed chance) with
  | (.ok rolled, _) => .ok (.ofText ("  Rolled " ++ rolled.display ++ "\n"))
  | (.error fault, _) => .error fault.message

/-- Why a file cannot be read, in a sentence. -/
def readFailure (file : String) (fault : FileFault) : String :=
  "cannot read " ++ file ++ ": " ++ fault.message

/-- Why a file cannot be written, in a sentence. -/
def writeFailure (file : String) (fault : FileFault) : String :=
  "cannot write to " ++ file ++ ": " ++ fault.message

/-- How a command went. -/
structure Outcome where
  /-- The code for the system: 0 if all went well, 2 if the arguments do not fit, else 1. -/
  code : Nat
  /-- What was printed. -/
  text : String
  /-- How many problems the source of the story has. -/
  summary : Option String
  /-- What went wrong. -/
  failure : Option String
  /-- The files afterwards. -/
  files : Files
  deriving DecidableEq, Repr

/-- The outcome of an output, with its file written. -/
def Outcome.ofOutput (files : Files) (summary : Option String) : Except String Output → Outcome
  | .error failure => ⟨1, "", summary, some failure, files⟩
  | .ok ⟨text, none⟩ => ⟨0, text, summary, none, files⟩
  | .ok ⟨text, some (path, content)⟩ =>
    match files.write path content with
    | .ok files => ⟨0, text, summary, none, files⟩
    | .error fault => ⟨1, "", summary, some (writeFailure path fault), files⟩

namespace Command

/-- Runs a command on files. -/
def perform (files : Files) (lines : List String) (chance : Generator) : Command → Outcome
  | roll expression seed => .ofOutput files none (rollOutput expression seed chance)
  | story task file dialect =>
    match files.read file with
    | .error fault => ⟨1, "", none, some (readFailure file fault), files⟩
    | .ok source =>
      let parsed := Markup.parse dialect source
      .ofOutput files (summary? parsed.diagnostics) (task.run file dialect parsed lines chance)

/-- The code for the system after arguments that do not fit; help is no failure. -/
def usageCode : UsageFault → Nat
  | .help => 0
  | .version => 0
  | _ => 2

/-- Runs what arguments ask for. -/
def performArguments (args : List String) (files : Files) (lines : List String)
    (chance : Generator) : Outcome :=
  match ofArguments args with
  | .error fault => ⟨usageCode fault, "", none, fault.message?, files⟩
  | .ok command => perform files lines chance command

end Command

end Gamebook
