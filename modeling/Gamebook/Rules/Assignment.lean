import Gamebook.Dice.Roll
import Gamebook.Rules.Substitution
import Gamebook.Story.Basic

/-!
# Assignments

An action assigns values to paths one after the other. A value is an expression over the leaves so
far; a text that is no expression is kept. Main definitions: `assignedValue`, `Action.run`.
-/

namespace Gamebook

/-- The expression of a value for a path, where `+=` and `-=` change the leaf at the path. -/
def assignedText (path : String) : Scalar → String
  | .number x => Number.display x
  | .text s =>
    match s.toList with
    | '+' :: '=' :: rest => "\x7b" ++ path ++ "\x7d + " ++ .ofList rest
    | '-' :: '=' :: rest => "\x7b" ++ path ++ "\x7d - (" ++ .ofList rest ++ ")"
    | _ => s

/-- A new leaf and the dice rolled for it. -/
structure Assigned where
  /-- The leaf. -/
  leaf : Scalar
  /-- The faces, or what is wrong with a term; none if no dice were rolled. -/
  trail : Option String
  deriving DecidableEq

/-- The leaf that a text stands for once its dice are rolled. -/
def leafOfText (sheet : Sheet) (text : String) : Scalar :=
  match evaluateText (.ofList (Text.removeBlanks text.toList)) with
  | .ok (.number x) => .number x
  | .ok (.bool b) => .text (toString b)
  | .error _ => .coerce (substitute sheet text)

/-- The leaf that a value gives to a path. -/
def assignedValue (path : String) (raw : Scalar) (sheet : Sheet) (g : Generator) :
    Assigned × Generator :=
  let (rolled, g) := rollTerms (substitute sheet (assignedText path raw)) g
  (⟨leafOfText sheet rolled.text, rolled.trail⟩, g)

/-- What an assignment did, unless it left everything as it was. -/
def auditEntry? (path : String) (prior : Option Scalar) (assigned : Assigned) : Option String :=
  let value := assigned.leaf.display
  match prior, assigned.trail with
  | none, some trail => some s!"{path}: {trail}-> {value}"
  | none, none => some s!"{path}: {value}"
  | some old, some trail => some (path ++ ": " ++ old.display ++ " -" ++ trail ++ "-> " ++ value)
  | some old, none =>
    if old.display = value then none else some (path ++ ": " ++ old.display ++ " -> " ++ value)

/-- The leaves that expressions see: absent ones among the assigned paths count as zero. -/
def scope (assignments sheet : Sheet) : Sheet :=
  (Sheet.ofList (assignments.keys.map fun path => (path, .number 0))).overlay sheet

/-- A sheet after an action, and what the action did. -/
structure Applied where
  /-- The sheet. -/
  sheet : Sheet
  /-- An entry for each change. -/
  entries : List String

/-- Applies assignments one after the other. -/
def assignAll (assignments : Sheet) : List (String × Scalar) → Sheet → Generator → Applied × Generator
  | [], sheet, g => (⟨sheet, []⟩, g)
  | (path, raw) :: rest, sheet, g =>
    let (assigned, g) := assignedValue path raw (scope assignments sheet) g
    let entry := auditEntry? path (sheet.get? path) assigned
    let (applied, g) := assignAll assignments rest (sheet.insert path assigned.leaf) g
    (⟨applied.sheet, entry.toList ++ applied.entries⟩, g)

/-- What an action did, as a text. -/
def Applied.audit (applied : Applied) : String :=
  ", ".intercalate applied.entries

/-- Applies an action to a sheet. -/
def Action.run (action : Action) (sheet : Sheet) (g : Generator) : Applied × Generator :=
  assignAll action.state.flatten action.state.flatten.entries sheet g

/-- An action with the account of what it did. -/
def Action.audited (action : Action) (audit : String) : Action :=
  { action with audit := some audit }

end Gamebook
