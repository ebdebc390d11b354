import Gamebook.Markup.Escape
import Gamebook.Markup.Source
import Gamebook.Text.Blank

/-!
# Pieces of running text

The text of a paragraph or heading is cut into pieces: plain text, and the signs that may mean more,
each with the range of the source that it comes from. Main definitions: `Piece`, `piecesOf`.
-/

namespace Gamebook.Markup

/-- What a piece of running text is. -/
inductive Mark where
  /-- Text that stands for itself. -/
  | plain (text : List Glyph)
  /-- What a character reference stands for. -/
  | reference (text : List Char)
  /-- The end of a line that is not the last one. -/
  | lineBreak
  /-- A run of backticks; the first one of an escaped run stands for itself. -/
  | ticks (count : Nat) (escaped : Bool)
  /-- An opening angle bracket. -/
  | angle
  /-- The sign before the text of an image. -/
  | imageStart
  /-- An opening square bracket. -/
  | linkStart
  /-- A closing square bracket. -/
  | linkStop
  /-- A run of emphasis signs with the characters around it. -/
  | run (sign : Char) (count : Nat) (before after : Char)
  deriving DecidableEq, Repr

/-- A piece of running text. -/
structure Piece where
  /-- What it is. -/
  mark : Mark
  /-- The range of the source that it comes from. -/
  span : Span
  /-- The text from the piece on. -/
  here : List Glyph
  deriving DecidableEq, Repr

/-- Whether a run may start emphasis. -/
def opensEmphasis (sign : Char) (count : Nat) (before after : Char) : Bool :=
  !Text.isBlank after &&
    (sign == '*' && !Text.isPunctuation after || sign == '~' && 1 < count ||
      sign == '~' && before == '~' && !Text.isPunctuation after ||
      Text.isBlank before || Text.isPunctuation before)

/-- Whether a run may end emphasis. -/
def closesEmphasis (sign : Char) (count : Nat) (before after : Char) : Bool :=
  !Text.isBlank before &&
    ((sign == '*' || sign == '~' && 1 < count) && !Text.isPunctuation before ||
      sign == '~' && before == '~' || Text.isBlank after || Text.isPunctuation after)

/-- Whether a run of signs means more than itself. -/
def isRun (sign : Char) (count : Nat) (before after : Char) : Bool :=
  (sign != '~' || count ≤ 2) &&
    (opensEmphasis sign count before after || closesEmphasis sign count before after)

/-- How many of a character glyphs start with. -/
def leading (sign : Char) (glyphs : List Glyph) : Nat :=
  (glyphs.takeWhile (·.char == sign)).length

/-- The character that glyphs start with; at the end it is a line feed. -/
def nextChar (glyphs : List Glyph) : Char :=
  (glyphs.head?.map (·.char)).getD '\n'

/-- The marked piece that a text starts with, how many glyphs it takes up, and how many of them come
before its range. -/
def mark? (before : Char) (glyphs : List Glyph) : Option (Mark × Nat × Nat) :=
  match glyphs with
  | [] => none
  | glyph :: rest =>
    let c := glyph.char
    let next := nextChar rest
    if c = '\\' then
      if next = '\x60' then
        let count := leading '\x60' rest
        some (.ticks count true, count + 1, 1)
      else if Text.isAsciiPunctuation next then some (.plain (rest.take 1), 2, 1)
      else none
    else if c = '\x60' then
      let count := leading '\x60' glyphs
      some (.ticks count false, count, 0)
    else if c = '<' then if next = '\\' then none else some (.angle, 1, 0)
    else if c = '!' then if next = '[' then some (.imageStart, 2, 0) else none
    else if c = '[' then some (.linkStart, 1, 0)
    else if c = ']' then some (.linkStop, 1, 0)
    else if c = '&' then
      (characterReference? (charsOf glyphs)).map fun (text, size) => (.reference text, size, 0)
    else if c = '*' ∨ c = '_' ∨ c = '~' then
      let count := leading c glyphs
      let after := nextChar (glyphs.drop count)
      if isRun c count before after then some (.run c count before after, count, 0)
      else some (.plain (glyphs.take count), count, 0)
    else none

/-- The pieces without plain pieces that are next to each other. -/
def Piece.cons (piece : Piece) (pieces : List Piece) : List Piece :=
  match piece.mark, pieces with
  | .plain text, ⟨.plain more, span, _⟩ :: rest =>
    if piece.span.stop = span.start then
      ⟨.plain (text ++ more), ⟨piece.span.start, span.stop⟩, piece.here⟩ :: rest
    else piece :: pieces
  | _, _ => piece :: pieces

/-- How many glyphs at a place belong to the end of a line, white space before and after it
included, and whether the text goes on after it. A backslash, or more than one blank, belongs to it;
a single blank does not. -/
def lineEnd? (glyphs : List Glyph) : Option (Nat × Bool) :=
  let blanks := glyphs.takeWhile (isSpace ·.char)
  let slash := blanks.isEmpty && nextChar glyphs == '\\'
  let size := if slash then 1 else blanks.length
  match glyphs.drop size with
  | [] => if slash then none else some (size, false)
  | glyph :: rest =>
    if glyph.char = '\n' ∧ (slash || size != 1) then
      if rest.isEmpty then if slash then none else some (size + 1, false)
      else some (size + 1, true)
    else none

/-- The pieces of a text. The first `taken` glyphs are dropped, and `before` is the character before
the text; white space at the start of a line is dropped after a line feed. -/
def piecesFrom (before : Char) (lineStart : Bool) : (taken : Nat) → List Glyph → List Piece
  | _, [] => []
  | taken + 1, glyph :: glyphs => piecesFrom glyph.char lineStart taken glyphs
  | 0, glyph :: glyphs =>
    let here := glyph :: glyphs
    if lineStart && (glyph.char == ' ' || glyph.char == '\t') then
      piecesFrom glyph.char true 0 glyphs
    else
      match lineEnd? here with
      | some (0, _) => []
      | some (size + 1, goesOn) =>
        if goesOn then
          let piece := ⟨.lineBreak, spanOf glyph.span.start (here.take (size + 1)), here⟩
          piece :: piecesFrom '\n' true size glyphs
        else []
      | none =>
        match mark? before here with
        | some (mark, size, skipped) =>
          let span := spanOf glyph.span.start ((here.take size).drop skipped)
          Piece.cons ⟨mark, span, here.drop skipped⟩ (piecesFrom glyph.char false (size - 1) glyphs)
        | none =>
          Piece.cons ⟨.plain [glyph], glyph.span, here⟩ (piecesFrom glyph.char false 0 glyphs)

/-- The pieces of the text of a paragraph or heading. -/
def piecesOf (glyphs : List Glyph) : List Piece :=
  piecesFrom '\n' false 0 glyphs

end Gamebook.Markup
