import Gamebook.Command.Run

/-!
# The program

Reads files and lines, runs commands and prints what they give. Everything that is decided is
decided in the modules that this one imports.
-/

namespace Gamebook.Terminal

open Command

/-- What is printed when help is asked for. -/
def usageText : String :=
  "Check, export and play annotated Markdown stories\n\n" ++
    "Usage: fable [--dialect <DIALECT>] [--verbose] <COMMAND>\n\n" ++
    "Commands:\n" ++
    "  check <FILE>              Parse a story and report diagnostics\n" ++
    "  sections <FILE>           List the sections of a story\n" ++
    "  export <FILE>             Export a story to a different format\n" ++
    "  graph <FILE>              Print the section graph as a mermaid flowchart\n" ++
    "  resolve <FILE> <SECTION>  Resolve one screen starting at a section\n" ++
    "  play <FILE>               Play a story interactively\n" ++
    "  roll <EXPR>               Roll a dice expression such as 2d6+3\n"

/-- The fault that an error of the system stands for. -/
def fileFault : IO.Error → FileFault
  | .noFileOrDirectory .. => .missing
  | .inappropriateType .. => .directory
  | error => .other error.toString

/-- Prints what is wrong with the source of a story. -/
def printReports (file : String) (source : String) (parsed : Markup.Parsed) : IO Unit := do
  let report (d : Markup.Diagnostic) : IO Unit := do
    IO.eprintln d.headline
    if let some place := d.location? file source.toList then
      IO.eprintln ("  " ++ place)
  parsed.diagnostics.forM report
  if let some counts := Markup.summary? parsed.diagnostics then
    IO.eprintln ("  " ++ counts)

/-- Prints why a command failed and gives its code. -/
def fail (message : String) : IO UInt32 := do
  IO.eprintln ("error: " ++ message)
  return 1

/-- Prints the output of a command and writes its file. -/
def printOutput : Except String Output → IO UInt32
  | .error message => fail message
  | .ok ⟨text, none⟩ => do
    IO.print text
    return 0
  | .ok ⟨text, some (path, content)⟩ => do
    match ← (IO.FS.writeFile path content).toBaseIO with
    | .ok _ =>
      IO.print text
      return 0
    | .error error => fail (writeFailure path (fileFault error))

/-- Plays a game with the lines that a player types. -/
partial def playLoop (input output : IO.FS.Stream) (session : Session) : IO Unit := do
  output.putStr promptText
  output.flush
  let line ← input.getLine
  if line.isEmpty then return
  let (text, next) := answer line session
  output.putStr text
  if let some session := next then
    playLoop input output session

/-- Starts a game. -/
def playGame (settings : Playing) (story : Story) (chance : Generator) : IO UInt32 := do
  match settings.session story chance with
  | .error message => fail message
  | .ok session =>
    IO.print (openingText session)
    if !session.finished then
      playLoop (← IO.getStdin) (← IO.getStdout) session
    return 0

/-- Does something with the story in a file. -/
def runTask (task : Task) (file : String) (dialect : Dialect) (chance : Generator) : IO UInt32 := do
  match ← (IO.FS.readFile file).toBaseIO with
  | .error error => fail (readFailure file (fileFault error))
  | .ok source =>
    let parsed := Markup.parse dialect source
    printReports file source parsed
    match task with
    | .play settings => playGame settings parsed.story chance
    | task => printOutput (task.run file dialect parsed [] chance)

/-- A word of chance. -/
def chanceWord : IO UInt32 :=
  return .ofNat (← IO.rand 0 (Nat.pow 2 32 - 1))

/-- A generator with a key of chance. -/
def chanceGenerator : IO Generator :=
  return ⟨⟨← chanceWord, ← chanceWord, ← chanceWord, ← chanceWord, ← chanceWord, ← chanceWord,
    ← chanceWord, ← chanceWord⟩, 0⟩

/-- Answers arguments that ask for no command. -/
def answerUsage (fault : UsageFault) : IO UInt32 := do
  match fault with
  | .help => IO.print usageText
  | .version => IO.println "fable"
  | .nothing => IO.eprint usageText
  | fault => IO.eprintln ("error: " ++ fault.message?.getD "")
  return .ofNat (usageCode fault)

end Gamebook.Terminal

open Gamebook Command Terminal in
/-- Runs what the arguments ask for. -/
def main (args : List String) : IO UInt32 := do
  let chance ← chanceGenerator
  match Command.ofArguments args with
  | .error fault => answerUsage fault
  | .ok (.roll expression seed) => printOutput (rollOutput expression seed chance)
  | .ok (.story task file dialect) => runTask task file dialect chance
