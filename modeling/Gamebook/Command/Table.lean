import Gamebook.Text.Split
import Gamebook.Text.Width

/-!
# Tables

A table with a heading, drawn with plain characters, where each column is as wide as its widest
cell. A cell may have more than one line. Main definition: `Table.lines`.
-/

namespace Gamebook.Command

/-- A table: its heading and its rows, with as many cells each. -/
structure Table where
  /-- The names of the columns. -/
  heading : List String
  /-- The rows. -/
  rows : List (List String)
  deriving DecidableEq, Repr

namespace Table

/-- The lines of a cell. -/
def cellLines (cell : String) : List (List Char) :=
  Text.splitOn '\n' cell.toList

/-- The width of a cell. -/
def cellWidth (cell : String) : Nat :=
  ((cellLines cell).map Text.width).foldl max 0

/-- The widths of columns, made as wide as the cells of a row. -/
def widen : List Nat → List String → List Nat
  | width :: widths, cell :: cells => max width (cellWidth cell) :: widen widths cells
  | widths, _ => widths

/-- The widths of the columns. -/
def widths (table : Table) : List Nat :=
  table.rows.foldl widen (table.heading.map cellWidth)

/-- A line of a row: a line of each cell. -/
def rowLine (widths : List Nat) (cells : List String) (line : Nat) : String :=
  let cell (width : Nat) (cell : String) : List Char :=
    let text := (cellLines cell)[line]?.getD []
    ' ' :: text ++ .replicate (width - Text.width text) ' ' ++ [' ', '|']
  .ofList ('|' :: (List.zipWith cell widths cells).flatten)

/-- The lines of a row. -/
def rowLines (widths : List Nat) (cells : List String) : List String :=
  let height := (cells.map fun cell => (cellLines cell).length).foldl max 0
  (List.range height).map (rowLine widths cells)

/-- A line between rows. -/
def ruleLine (edge dash joint : Char) (widths : List Nat) : String :=
  let dashes := widths.map fun width => List.replicate (width + 2) dash
  .ofList (edge :: Text.joinWith [joint] dashes ++ [edge])

/-- The rows with lines between them. -/
def bodyLines (widths : List Nat) : List (List String) → List String
  | [] => []
  | [row] => rowLines widths row
  | row :: rows => rowLines widths row ++ ruleLine '|' '-' '+' widths :: bodyLines widths rows

/-- The lines of a table. -/
def lines (table : Table) : List String :=
  let widths := table.widths
  ruleLine '+' '-' '+' widths :: rowLines widths table.heading ++ ruleLine '+' '=' '=' widths ::
    bodyLines widths table.rows ++ [ruleLine '+' '-' '+' widths]

end Table

end Gamebook.Command
