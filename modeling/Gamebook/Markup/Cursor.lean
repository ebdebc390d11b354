import Gamebook.Markup.Source

/-!
# Indentation

A cursor stands inside a line. Indentation is counted in columns, where a tab reaches up to the next
multiple of four, and a part of a tab may be taken. Main definitions: `Cursor`, `Cursor.skip`, and
the markers of block quotes and list items.
-/

namespace Gamebook.Markup

/-- A place inside a line. -/
structure Cursor where
  /-- The offset of the next byte. -/
  offset : Nat
  /-- The rest of the line without its ending. -/
  rest : List Char
  /-- The column, counted from the last tab. -/
  column : Nat
  /-- The columns of the last tab that are still to come. -/
  pending : Nat
  deriving DecidableEq, Repr

namespace Cursor

/-- The cursor at the start of a line. -/
def ofLine (line : Line) : Cursor :=
  ⟨line.start, line.text, 0, 0⟩

/-- Skips columns of white space at a place without a pending tab; gives the columns missing. -/
def skipFrom (offset column : Nat) : (columns : Nat) → List Char → Nat × Cursor
  | 0, cs => (0, ⟨offset, cs, column, 0⟩)
  | n + 1, ' ' :: cs => skipFrom (offset + 1) (column + 1) n cs
  | n + 1, '\t' :: cs =>
    let width := 4 - column % 4
    if n + 1 < width then (0, ⟨offset + 1, cs, 0, width - (n + 1)⟩)
    else skipFrom (offset + 1) 0 (n + 1 - width) cs
  | n + 1, cs => (n + 1, ⟨offset, cs, column, 0⟩)

/-- Skips columns of white space; gives the columns missing. -/
def skip (n : Nat) (c : Cursor) : Nat × Cursor :=
  if n < c.pending then (0, { c with pending := c.pending - n })
  else skipFrom c.offset c.column (n - c.pending) c.rest

/-- Skips columns of white space up to a limit; gives the columns skipped. -/
def skipUpTo (n : Nat) (c : Cursor) : Nat × Cursor :=
  let (missing, c) := c.skip n
  (n - missing, c)

/-- Skips characters that take one byte and one column each. -/
def advance (n : Nat) (c : Cursor) : Cursor :=
  ⟨c.offset + n, c.rest.drop n, c.column + n, 0⟩

/-- Skips all white space. -/
def skipAll (c : Cursor) : Cursor :=
  c.advance (c.rest.takeWhile fun d => d == ' ' || d == '\t').length

/-- Whether nothing but white space follows. -/
def isBlank (c : Cursor) : Bool :=
  isBlankText c.rest

/-- Skips the marker of a block quote and a space after it. -/
def quoteMarker? (c : Cursor) : Option Cursor :=
  match c.rest with
  | '>' :: _ => some ((c.advance 1).skip 1).2
  | _ => none

end Cursor

/-- Whether a line is a thematic break: three or more of one sign, with spaces and tabs. -/
def isRule : List Char → Bool
  | [] => false
  | c :: cs =>
    (c == '*' || c == '-' || c == '_') && (c :: cs).all (fun d => d == c || d == ' ' || d == '\t') &&
      3 ≤ (c :: cs).count c

/-- The marker of a list item. -/
structure ListMarker where
  /-- The sign: a bullet, or what follows a number. -/
  sign : Char
  /-- The number, or zero. -/
  index : Nat
  /-- The column that the content of the item starts at. -/
  indent : Nat
  deriving DecidableEq, Repr

/-- Whether a character is a bullet. -/
def isBullet (c : Char) : Bool :=
  c == '-' || c == '+' || c == '*'

/-- Skips the white space after a list marker, which is due there. -/
def finishListMarker (marker : ListMarker) (c : Cursor) : Option (ListMarker × Cursor) :=
  let (missing, c) := c.skip 1
  if missing = 0 ∨ c.rest = [] then
    if c.isBlank then some (marker, c)
    else
      let (space, after) := c.skipUpTo 4
      if space < 4 then some ({ marker with indent := marker.indent + space }, after)
      else some (marker, c)
  else none

/-- The number that a text starts with, and how many digits it has, if these are at most nine. -/
def listNumber? (cs : List Char) : Option (Nat × Nat) :=
  let digits := cs.takeWhile Char.isDigit
  if digits ≠ [] ∧ digits.length ≤ 9 then
    some (digits.foldl (fun n c => n * 10 + (c.toNat - 48)) 0, digits.length)
  else none

/-- Skips the marker of a list item that is indented by some columns. -/
def listMarker? (indent : Nat) (c : Cursor) : Option (ListMarker × Cursor) :=
  match c.rest with
  | [] => none
  | sign :: _ =>
    if isBullet sign then
      if isRule c.rest then none else finishListMarker ⟨sign, 0, indent + 2⟩ (c.advance 1)
    else do
      let (index, size) ← listNumber? c.rest
      match c.rest.drop size with
      | sign :: _ =>
        if sign = '.' ∨ sign = ')' then
          finishListMarker ⟨sign, index, indent + size + 2⟩ (c.advance (size + 1))
        else none
      | [] => none

end Gamebook.Markup
