import Gamebook.State.Sheet
import Gamebook.Text.Split

/-!
# Substitution

In a text, a path between braces stands for the leaf at that path. The innermost groups are replaced
first, and the text is passed over again until nothing changes or `maxPasses` passes are made. Main
definitions: `substitutePass`, `substitute`.
-/

namespace Gamebook

/-- How often a text is passed over at most. -/
def maxPasses : Nat := 16

/--
A text that a closing brace follows, with that brace: its last group is replaced if it names a leaf.
-/
def substituteGroup (sheet : Sheet) (cs : List Char) : List Char :=
  match Text.cutAtLast? '{' cs with
  | none => cs ++ ['}']
  | some (before, key) =>
    match sheet.get? (.ofList key) with
    | none => cs ++ ['}']
    | some leaf => before ++ leaf.display.toList

/-- The pieces of a text between its closing braces, each with its group replaced. -/
def substitutePieces (sheet : Sheet) : List (List Char) → List Char
  | [] => []
  | [last] => last
  | piece :: pieces => substituteGroup sheet piece ++ substitutePieces sheet pieces

/-- The text with its innermost groups replaced. -/
def substitutePass (sheet : Sheet) (cs : List Char) : List Char :=
  substitutePieces sheet (Text.splitOn '}' cs)

/-- The text with its groups replaced. -/
def substitute (sheet : Sheet) (text : String) : String :=
  .ofList (Nat.repeat (substitutePass sheet) maxPasses text.toList)

end Gamebook
