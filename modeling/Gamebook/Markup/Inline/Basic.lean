import Gamebook.Markup.Source

/-!
# Running text

What the text of a paragraph or heading consists of. Main definition: `Inline`.
-/

namespace Gamebook.Markup

/-- A run of emphasis signs. -/
structure Run where
  /-- The sign. -/
  sign : Char
  /-- How many there are. -/
  count : Nat
  /-- The character before the run. -/
  before : Char
  /-- The character after the run. -/
  after : Char
  deriving DecidableEq, Repr

/-- A part of running text, with the range of the source that it comes from. -/
inductive Inline where
  /-- Text. -/
  | text (chars : List Char) (span : Span)
  /-- A run of signs of which it is not known yet what it does. -/
  | run (run : Run) (span : Span)
  /-- The end of a line. -/
  | lineBreak (span : Span)
  /-- Code. -/
  | code (chars : List Char) (span : Span)
  /-- HTML as it is written. -/
  | html (chars : List Char) (span : Span)
  /-- A link or image with what stands for it in the text. -/
  | link (image : Bool) (children : List Inline) (target : List Char) (span : Span)
  deriving Repr

end Gamebook.Markup
