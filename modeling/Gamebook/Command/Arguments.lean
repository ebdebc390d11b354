import Gamebook.Text.Split

/-!
# Arguments of a command

The arguments of a command are options with and without values, words in order, and the name of a
further command. They are read from left to right; the value of an option is looked at when the next
option or word settles it. Main definitions: `Opt`, `Form`, `UsageFault`, `Scan`, `Scan.read`.
-/

namespace Gamebook.Command

/-- Why arguments do not fit. -/
inductive UsageFault where
  /-- There are no arguments at all. -/
  | nothing
  /-- Only a further command would do something. -/
  | noCommand
  /-- A word that is not the name of a command. -/
  | unknownCommand (word : String)
  /-- An option or word that has no place. -/
  | unexpected (arg : String)
  /-- A required word is missing. -/
  | missingWord
  /-- An option or word has no value. -/
  | missingValue (shown : String)
  /-- A value that cannot be meant. -/
  | invalidValue (value shown reason : String)
  /-- A value for an option that takes none. -/
  | needlessValue (value shown : String)
  /-- An option that is given twice. -/
  | repeated (shown : String)
  /-- Two options that exclude one another. -/
  | conflict (shown other : String)
  /-- Help is asked for. -/
  | help
  /-- The version is asked for. -/
  | version
  deriving DecidableEq, Repr

/-- The wording of a fault; some are answered with help and have none. -/
def UsageFault.message? : UsageFault → Option String
  | nothing => none
  | noCommand => some "'fable' requires a subcommand but one was not provided"
  | unknownCommand word => some s!"unrecognized subcommand '{word}'"
  | unexpected arg => some s!"unexpected argument '{arg}' found"
  | missingWord => some "the following required arguments were not provided:"
  | missingValue shown => some s!"a value is required for '{shown}' but none was supplied"
  | invalidValue value shown reason => some s!"invalid value '{value}' for '{shown}': {reason}"
  | needlessValue value shown =>
    some s!"unexpected value '{value}' for '{shown}' found; no more were expected"
  | repeated shown => some s!"the argument '{shown}' cannot be used multiple times"
  | conflict shown other => some s!"the argument '{shown}' cannot be used with '{other}'"
  | help => none
  | version => none

/-- What is asked of a value. -/
inductive ValueKind where
  /-- Any text. -/
  | text
  /-- A path, which is not empty. -/
  | path
  /-- A number of at most 64 bits. -/
  | number
  /-- Anything that a function has no objection to. -/
  | checked (objection : String → Option String)

/-- Why the digits of a number spell none of at most 64 bits, where `n` stands before them. -/
def digitsObjection (n : Nat) : List Char → Option String
  | [] => none
  | c :: cs =>
    if c.isDigit then
      let n := n * 10 + (c.toNat - 48)
      if n < Nat.pow 2 64 then digitsObjection n cs
      else some "number too large to fit in target type"
    else some "invalid digit found in string"

/-- Why a text is no number of at most 64 bits. A plus sign may stand before the digits. -/
def numberObjection (text : String) : Option String :=
  match text.toList with
  | [] => some "cannot parse integer from empty string"
  | ['+'] => some "invalid digit found in string"
  | '+' :: cs => digitsObjection 0 cs
  | cs => digitsObjection 0 cs

/-- The number that a text spells. -/
def number? (text : String) : Option Nat :=
  if (numberObjection text).isSome then none
  else
    some (text.toList.foldl (fun n c => if c.isDigit then n * 10 + (c.toNat - 48) else n) 0)

/-- The fault of a value of something that is shown in some way. -/
def ValueKind.fault? (kind : ValueKind) (shown value : String) : Option UsageFault :=
  match kind with
  | text => none
  | path => if value = "" then some (.missingValue shown) else none
  | number => (numberObjection value).map (.invalidValue value shown)
  | checked objection => (objection value).map (.invalidValue value shown)

/-- An option. -/
structure Opt where
  /-- The name, without its dashes. -/
  name : String
  /-- The letter that stands for it. -/
  letter : Option Char
  /-- How its value is called and what it is, if it takes one. -/
  value : Option (String × ValueKind)

/-- The option as it is shown in messages. -/
def Opt.shown (opt : Opt) : String :=
  match opt.value with
  | none => "--" ++ opt.name
  | some (label, _) => "--" ++ opt.name ++ " <" ++ label ++ ">"

/-- A word that is required. -/
structure Word where
  /-- How it is called. -/
  label : String
  /-- What it is. -/
  kind : ValueKind

/-- The word as it is shown in messages. -/
def Word.shown (word : Word) : String :=
  "<" ++ word.label ++ ">"

/-- What the arguments of a command may be. -/
structure Form where
  /-- The options. -/
  options : List Opt
  /-- The words, all of them required. -/
  words : List Word
  /-- The names of further commands. -/
  commands : List String
  /-- Pairs of options that exclude one another. -/
  conflicts : List (String × String)

/-- An option or word whose value is not looked at yet. -/
inductive Unsettled where
  /-- An option that a value may follow. -/
  | option (opt : Opt) (value : Option String)
  /-- A word. -/
  | word (word : Word) (value : String)

/-- What is read of the arguments so far. -/
structure Scan where
  /-- The options in order with their values; an option without value has an empty one. -/
  options : List (String × String)
  /-- The words in order. -/
  words : List String
  /-- What is not looked at yet. -/
  unsettled : Option Unsettled
  /-- Whether two dashes came before. -/
  wordsOnly : Bool

namespace Scan

/-- Nothing is read yet. -/
def empty : Scan :=
  ⟨[], [], none, false⟩

/-- How many words there are, with one that is not looked at yet. -/
def wordCount (s : Scan) : Nat :=
  match s.unsettled with
  | some (.word _ _) => s.words.length + 1
  | _ => s.words.length

/-- The option that still waits for its value. -/
def waiting? (s : Scan) : Option Opt :=
  match s.unsettled with
  | some (.option opt none) => some opt
  | _ => none

/-- Adds an option. -/
def add (opt : Opt) (value : Option String) (s : Scan) : Except UsageFault Scan :=
  match opt.value, value with
  | some _, none => .error (.missingValue opt.shown)
  | some (_, kind), some value =>
    if s.options.any (·.1 == opt.name) then .error (.repeated opt.shown)
    else
      match kind.fault? opt.shown value with
      | some fault => .error fault
      | none => .ok { s with options := s.options ++ [(opt.name, value)] }
  | none, _ =>
    if s.options.any (·.1 == opt.name) then .error (.repeated opt.shown)
    else .ok { s with options := s.options ++ [(opt.name, "")] }

/-- Looks at what is not looked at yet. -/
def settle (s : Scan) : Except UsageFault Scan :=
  let cleared := { s with unsettled := none }
  match s.unsettled with
  | none => .ok s
  | some (.option opt value) => cleared.add opt value
  | some (.word word value) =>
    match word.kind.fault? word.shown value with
    | some fault => .error fault
    | none => .ok { cleared with words := s.words ++ [value] }

/-- Reads an option with the value that is attached to it. -/
def option (opt : Opt) (attached : Option String) (s : Scan) : Except UsageFault Scan := do
  let s ← s.settle
  match opt.value, attached with
  | some _, none => return { s with unsettled := some (.option opt none) }
  | _, _ => s.add opt attached

/-- The fault that asks for help or the version. -/
def askedFor? (name : String) : Option UsageFault :=
  if name = "help" then some .help else if name = "version" then some .version else none

/-- Reads an option by its name, with what comes after an equals sign. -/
def named (form : Form) (name : String) (attached : Option String) (s : Scan) :
    Except UsageFault Scan :=
  match form.options.find? (·.name = name) with
  | some opt =>
    match opt.value, attached with
    | none, some value => .error (.needlessValue value opt.shown)
    | _, _ => s.option opt attached
  | none =>
    match askedFor? name with
    | some fault => .error fault
    | none => .error (.unexpected ("--" ++ name))

/-- Reads letters that stand for options; the rest after one that takes a value is its value. -/
def letters (form : Form) (s : Scan) : List Char → Except UsageFault Scan
  | [] => .ok s
  | c :: cs =>
    match form.options.find? (·.letter = some c) with
    | some opt =>
      match opt.value with
      | none => do (← s.option opt none).letters form cs
      | some _ =>
        let attached : Option String :=
          match cs with
          | [] => none
          | '=' :: value => some (.ofList value)
          | value => some (.ofList value)
        s.option opt attached
    | none =>
      if c = 'h' then .error .help
      else if c = 'V' then .error .version
      else .error (.unexpected (.ofList ['-', c]))

/-- Reads a word. -/
def word (form : Form) (arg : String) (s : Scan) : Except UsageFault Scan :=
  match form.words[s.wordCount]? with
  | some word => do
    let s ← s.settle
    return { s with unsettled := some (.word word arg) }
  | none =>
    if form.commands = [] ∨ s.wordsOnly ∧ arg ∈ form.commands then .error (.unexpected arg)
    else .error (.unknownCommand arg)

/-- Reads an argument that is no option by its looks. -/
def plain (form : Form) (arg : String) (s : Scan) : Except UsageFault Scan :=
  match s.waiting?, s.wordsOnly with
  | some opt, false => .ok { s with unsettled := some (.option opt (some arg)) }
  | _, _ => s.word form arg

/-- Reads an argument. -/
def argument (form : Form) (arg : String) (s : Scan) : Except UsageFault Scan :=
  if s.wordsOnly then s.word form arg
  else
    match arg.toList with
    | ['-', '-'] => .ok { s with wordsOnly := true }
    | '-' :: '-' :: cs =>
      match Text.cutAtFirst? '=' cs with
      | some (name, value) => s.named form (.ofList name) (some (.ofList value))
      | none => s.named form (.ofList cs) none
    | '-' :: c :: cs => s.letters form (c :: cs)
    | _ => s.plain form arg

/-- Reads arguments up to the name of a further command, which is given with those after it. -/
def read (form : Form) (s : Scan) :
    List String → Except UsageFault (Scan × Option (String × List String))
  | [] => .ok (s, none)
  | arg :: args =>
    if !s.wordsOnly && s.waiting?.isNone && form.commands.contains arg then
      .ok (s, some (arg, args))
    else do (← s.argument form arg).read form args

/-- The first of the given options that another one excludes, with that other one. -/
def conflict? (form : Form) (given : List (String × String)) : Option (String × String) :=
  given.findSome? fun (name, _) =>
    let others := form.conflicts.filterMap fun (a, b) =>
      if a = name then some b else if b = name then some a else none
    (others.find? fun other => given.any (·.1 == other)).map (name, ·)

/-- The text that an option is shown as. -/
def shownName (form : Form) (name : String) : String :=
  ((form.options.find? (·.name = name)).map Opt.shown).getD name

/-- Looks at the end of arguments after which no further command comes. -/
def finish (form : Form) (s : Scan) : Except UsageFault Scan := do
  let s ← s.settle
  match conflict? form s.options with
  | some (name, other) => .error (.conflict (shownName form name) (shownName form other))
  | none => if s.words.length < form.words.length then .error .missingWord else .ok s

end Scan

end Gamebook.Command
