import Gamebook.Text.Utf8

/-!
# The source of a document

A document is cut into lines, each with the offset of its first byte. The text of a block is a list
of glyphs: characters that know which bytes of the source they are. Main definitions: `Span`,
`Glyph`, `Line`, `linesOf`.
-/

namespace Gamebook.Markup

/-- A range of bytes of the source. -/
structure Span where
  /-- The offset of the first byte. -/
  start : Nat
  /-- The offset after the last byte. -/
  stop : Nat
  deriving DecidableEq, Repr

/-- A character of the source. A line ending is the character line feed. -/
structure Glyph where
  /-- The character. -/
  char : Char
  /-- The bytes that it takes up. -/
  span : Span
  /-- The source from the character up to the next glyph. -/
  raw : List Char
  deriving DecidableEq, Repr

/-- The characters of glyphs. -/
def charsOf (glyphs : List Glyph) : List Char :=
  glyphs.map (·.char)

/-- The source from the first of some glyphs to the last. -/
def rawOf : List Glyph → List Char
  | [] => []
  | [glyph] => [glyph.char]
  | glyph :: glyphs => glyph.raw ++ rawOf glyphs

/-- The range from the first of some glyphs to the last, or an empty range. -/
def spanOf (fallback : Nat) (glyphs : List Glyph) : Span :=
  match glyphs.head?, glyphs.getLast? with
  | some first, some last => ⟨first.span.start, last.span.stop⟩
  | _, _ => ⟨fallback, fallback⟩

/-- A line of the source. -/
structure Line where
  /-- The offset of its first byte. -/
  start : Nat
  /-- The text without the ending. -/
  text : List Char
  /-- The characters that end the line; none at the end of the source. -/
  ending : List Char
  /-- Whether no text follows on the next line. -/
  beforeBlank : Bool
  deriving DecidableEq, Repr

/-- The offset of the ending of a line. -/
def Line.textStop (line : Line) : Nat :=
  line.start + Text.byteSize line.text

/-- The offset after a line. -/
def Line.stop (line : Line) : Nat :=
  line.textStop + line.ending.length

/-- Whether a character is white space inside of a line. -/
def isSpace (c : Char) : Bool :=
  c == ' ' || c == '\t' || c == '\x0b' || c == '\x0c'

/-- Whether a text has nothing but white space. -/
def isBlankText (cs : List Char) : Bool :=
  cs.all isSpace

/-- Whether the first of some lines is blank, or there is none. -/
def startsBlank : List Line → Bool
  | [] => true
  | line :: _ => isBlankText line.text

/-- The lines of a text that starts at an offset. -/
def linesFrom (offset : Nat) : List Char → List Line
  | [] => []
  | '\r' :: '\n' :: cs =>
    let lines := linesFrom (offset + 2) cs
    ⟨offset, [], ['\r', '\n'], startsBlank lines⟩ :: lines
  | c :: cs =>
    if c = '\n' ∨ c = '\r' then
      let lines := linesFrom (offset + 1) cs
      ⟨offset, [], [c], startsBlank lines⟩ :: lines
    else
      match linesFrom (offset + Text.charSize c) cs with
      | [] => [⟨offset, [c], [], true⟩]
      | line :: lines => { line with start := offset, text := c :: line.text } :: lines

/-- The lines of a source. -/
def linesOf (source : List Char) : List Line :=
  linesFrom 0 source

/-- The glyphs of a text without line endings that starts at an offset. -/
def glyphsFrom (offset : Nat) : List Char → List Glyph
  | [] => []
  | c :: cs =>
    let stop := offset + Text.charSize c
    ⟨c, ⟨offset, stop⟩, [c]⟩ :: glyphsFrom stop cs

/-- The characters of the glyphs of a text are the text. -/
theorem charsOf_glyphsFrom (offset : Nat) (cs : List Char) : charsOf (glyphsFrom offset cs) = cs := by
  induction cs generalizing offset with
  | nil => rfl
  | cons c cs ih =>
    have h := ih (offset + Text.charSize c)
    simp only [charsOf] at h
    simp [glyphsFrom, charsOf, h]

end Gamebook.Markup
