import Gamebook.Command.Arguments
import Gamebook.Markup.Dialect

/-!
# Commands

What the program can be asked to do, and how arguments ask for it. Main definitions: `Task`,
`Command`, `Command.ofArguments`.
-/

namespace Gamebook

/-- How a story is written out. -/
structure Export where
  /-- The name of the format. -/
  format : String
  /-- The file to write to. -/
  file : Option String
  /-- Whether a flowchart is added to a document. -/
  flowchart : Bool
  deriving DecidableEq, Repr

/-- Which screen is shown. -/
structure Resolution where
  /-- The section, with signs before its name or without. -/
  target : String
  /-- The state to start from. -/
  state : Option String
  /-- The seed of the generator. -/
  seed : Option Nat
  /-- How many sections the screen may show. -/
  maxDepth : Nat
  /-- Whether the screen is written as JSON. -/
  json : Bool
  deriving DecidableEq, Repr

/-- How a story is played. -/
structure Playing where
  /-- The section to start at. -/
  target : Option String
  /-- The bookmark to start from. -/
  bookmark : Option String
  /-- The seed of the generator. -/
  seed : Option Nat
  /-- How many sections a screen may show. -/
  maxDepth : Nat
  /-- Whether the only way on is not followed back. -/
  rejectRevisits : Bool
  deriving DecidableEq, Repr

/-- What is done with a story. -/
inductive Task where
  /-- Its problems are counted. -/
  | check
  /-- Its sections are listed. -/
  | sections
  /-- It is written out. -/
  | writeOut (settings : Export)
  /-- Its flowchart is written. -/
  | graph
  /-- A screen of it is shown. -/
  | resolve (settings : Resolution)
  /-- It is played. -/
  | play (settings : Playing)
  deriving DecidableEq, Repr

/-- What the program is asked to do. -/
inductive Command where
  /-- Something with the story in a file. -/
  | story (task : Task) (file : String) (dialect : Dialect)
  /-- A roll of dice. -/
  | roll (expression : String) (seed : Option Nat)
  deriving DecidableEq, Repr

namespace Command

/-- Why a text is no dialect. -/
def dialectObjection (text : String) : Option String :=
  match Dialect.read text with
  | .ok _ => none
  | .error message => some message

/-- The options that every command has. -/
def commonOptions : List Opt :=
  [⟨"dialect", none, some ("DIALECT", .checked dialectObjection)⟩, ⟨"verbose", some 'v', none⟩]

/-- The option of a seed. -/
def seedOption : Opt :=
  ⟨"seed", none, some ("SEED", .number)⟩

/-- The option of a depth. -/
def depthOption : Opt :=
  ⟨"max-depth", none, some ("MAX_DEPTH", .number)⟩

/-- The word for the file of a story. -/
def fileWord : Word :=
  ⟨"FILE", .path⟩

/-- The form of a command with options, words and conflicts of its own. -/
def formOf (options : List Opt) (words : List Word) (conflicts : List (String × String)) : Form :=
  ⟨options ++ commonOptions, words, [], conflicts⟩

/-- The form of each command. -/
def forms : List (String × Form) :=
  [("check", formOf [] [fileWord] []), ("sections", formOf [] [fileWord] []),
    ("export",
      formOf [⟨"format", some 'f', some ("FORMAT", .text)⟩, ⟨"output", some 'o', some ("OUTPUT", .path)⟩,
        ⟨"no-flowchart", none, none⟩] [fileWord] []),
    ("graph", formOf [] [fileWord] []),
    ("resolve",
      formOf [⟨"state", some 's', some ("STATE", .text)⟩, seedOption, depthOption, ⟨"json", none, none⟩]
        [fileWord, ⟨"SECTION", .text⟩] []),
    ("play",
      formOf [⟨"section", none, some ("SECTION", .text)⟩, ⟨"bookmark", some 'b', some ("BOOKMARK", .text)⟩,
        seedOption, depthOption, ⟨"reject-revisits", none, none⟩] [fileWord] [("bookmark", "section")]),
    ("roll", formOf [seedOption] [⟨"EXPR", .text⟩] [])]

/-- The form of the arguments before the name of a command. -/
def mainForm : Form :=
  ⟨commonOptions, [], forms.map (·.1) ++ ["help"], []⟩

/-- The value of an option. -/
def value? (options : List (String × String)) (name : String) : Option String :=
  options.lookup name

/-- Whether an option is given. -/
def isGiven (options : List (String × String)) (name : String) : Bool :=
  (value? options name).isSome

/-- The number that an option gives. -/
def numberValue? (options : List (String × String)) (name : String) : Option Nat :=
  (value? options name).bind number?

/-- How many sections a screen may show unless an option says otherwise. -/
def defaultDepth : Nat := 10

/-- The task with a name, from its options and the words after the file. -/
def taskOf (name : String) (options : List (String × String)) (words : List String) : Task :=
  let depth := (numberValue? options "max-depth").getD defaultDepth
  if name = "check" then .check
  else if name = "sections" then .sections
  else if name = "export" then
    .writeOut
      { format := (value? options "format").getD "markdown"
        file := value? options "output"
        flowchart := !isGiven options "no-flowchart" }
  else if name = "graph" then .graph
  else if name = "resolve" then
    .resolve
      { target := words.headD ""
        state := value? options "state"
        seed := numberValue? options "seed"
        maxDepth := depth
        json := isGiven options "json" }
  else
    .play
      { target := value? options "section"
        bookmark := value? options "bookmark"
        seed := numberValue? options "seed"
        maxDepth := depth
        rejectRevisits := isGiven options "reject-revisits" }

/-- The dialect that options give; those after the name of the command come first. -/
def dialectOf (options : List (String × String)) : Dialect :=
  match (value? options "dialect").map Dialect.read with
  | some (.ok dialect) => dialect
  | _ => .chapter

/-- The command with a name, from its options and words. -/
def make (name : String) (options : List (String × String)) (words : List String) : Command :=
  if name = "roll" then .roll (words.headD "") (numberValue? options "seed")
  else .story (taskOf name options (words.drop 1)) (words.headD "") (dialectOf options)

/-- The command that arguments ask for. -/
def ofArguments (args : List String) : Except UsageFault Command := do
  let (outer, command) ← Scan.empty.read mainForm args
  match command with
  | none =>
    let outer ← outer.finish mainForm
    if outer.options.isEmpty then .error .nothing else .error .noCommand
  | some (name, args) =>
    match forms.lookup name with
    | none => .error .help
    | some form =>
      let (inner, _) ← Scan.empty.read form args
      let inner ← inner.finish form
      let outer ← outer.settle
      return make name (inner.options ++ outer.options) inner.words

end Command

end Gamebook
