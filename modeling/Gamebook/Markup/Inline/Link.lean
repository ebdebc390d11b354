import Gamebook.Markup.Destination
import Gamebook.Markup.Html
import Gamebook.Markup.Inline.Emphasis

/-!
# Code, HTML and links in running text

Pieces become parts of running text from left to right. Code is found first, then HTML; brackets are
kept open until a closing one decides whether they are a link. Main definitions: `Inlines` (what is
read so far), `Inlines.piece`, `inlinesOf`.
-/

namespace Gamebook.Markup

/-- A square bracket that is open. -/
structure Bracket where
  /-- Whether it starts an image. -/
  image : Bool
  /-- Whether it may still start a link: links do not hold links. -/
  usable : Bool
  /-- The range of its sign. -/
  span : Span
  /-- The text from the square bracket on. -/
  here : List Glyph
  /-- What comes before it, last one first. -/
  outer : List Inline
  deriving Repr

/-- The text of a bracket. -/
def Bracket.sign (bracket : Bracket) : List Char :=
  if bracket.image then ['!', '['] else ['[']

/-- What is read of a running text so far. -/
structure Inlines where
  /-- The open brackets, the innermost first. -/
  brackets : List Bracket
  /-- What comes after the innermost one, last one first. -/
  inner : List Inline
  /-- The offset that what is read reaches up to. -/
  resume : Nat
  /-- The offsets of closing brackets that were tried before as the end of a label. -/
  tried : List Nat
  deriving Repr

/-- The text of code: line ends are spaces, and one space is taken off on both sides. -/
def codeText (cs : List Char) : List Char :=
  let text := cs.map fun c => if c = '\n' then ' ' else c
  if cs.all (· == ' ') then text
  else if text.head? = some ' ' ∧ text.getLast? = some ' ' then (text.drop 1).dropLast
  else text

/-- The glyphs before an offset. -/
def glyphsBefore (stop : Nat) (glyphs : List Glyph) : List Glyph :=
  glyphs.takeWhile (·.span.start < stop)

/-- The offset that a rest of a text starts at. -/
def offsetOf (fallback : Nat) (glyphs : List Glyph) : Nat :=
  (glyphs.head?.map (·.span.start)).getD fallback

/-- The first run of as many backticks among pieces. -/
def findTicks (count : Nat) (pieces : List Piece) : Option Piece :=
  pieces.find? fun piece =>
    match piece.mark with
    | .ticks found _ => found == count
    | _ => false

/-- The part of a piece that comes after an offset. -/
def Piece.trim (offset : Nat) (piece : Piece) : Piece :=
  if piece.span.start < offset then
    let late (glyphs : List Glyph) : List Glyph := glyphs.dropWhile (·.span.start < offset)
    let mark :=
      match piece.mark with
      | .plain text => .plain (late text)
      | mark => mark
    ⟨mark, ⟨offset, piece.span.stop⟩, late piece.here⟩
  else piece

/-- The destination that a label stands for. -/
def lookupLabel (definitions : List Definition) (key : List Char) : Option (List Char) :=
  (definitions.find? (·.key == key)).map (·.target)

namespace Inlines

/-- Nothing is read yet. -/
def empty : Inlines :=
  ⟨[], [], 0, []⟩

/-- Adds a part. -/
def add (part : Inline) (s : Inlines) : Inlines :=
  { s with inner := part :: s.inner }

/-- Adds a sign of the source as text. -/
def addSign (sign : List Char) (span : Span) (s : Inlines) : Inlines :=
  s.add (.text sign span)

/-- Gives up on the innermost bracket: its sign is text. -/
def flatten (s : Inlines) : Inlines :=
  match s.brackets with
  | [] => s
  | bracket :: brackets =>
    let text := .text bracket.sign bracket.span
    { s with brackets, inner := s.inner ++ text :: bracket.outer }

/-- Opens a bracket. -/
def enter (image : Bool) (piece : Piece) (s : Inlines) : Inlines :=
  let here := if image then piece.here.drop 1 else piece.here
  { s with brackets := ⟨image, true, piece.span, here, s.inner⟩ :: s.brackets, inner := [] }

/-- Makes a link or image of the innermost bracket. -/
def close (bracket : Bracket) (brackets : List Bracket) (target : List Char) (stop resume : Nat)
    (s : Inlines) : Inlines :=
  let part := .link bracket.image (settleRuns s.inner.reverse) target ⟨bracket.span.start, stop⟩
  let bar (b : Bracket) : Bracket := if b.image then b else { b with usable := false }
  { s with
    brackets := if bracket.image then brackets else brackets.map bar
    inner := part :: bracket.outer
    resume }

/-- Reads a run of backticks. -/
def ticks (piece : Piece) (count : Nat) (escaped : Bool) (pieces : List Piece) (s : Inlines) :
    Inlines :=
  let size := if escaped then count - 1 else count
  match if size = 0 then none else findTicks size pieces with
  | none => s.addSign (.replicate count '\x60') piece.span
  | some closing =>
    let content := glyphsBefore closing.span.start (piece.here.drop count)
    let start := piece.span.start
    let s := { s with resume := closing.span.stop }
    if escaped then
      (s.addSign ['\x60'] ⟨start, start + 1⟩).add
        (.code (codeText (charsOf content)) ⟨start + 1, closing.span.stop⟩)
    else s.add (.code (codeText (charsOf content)) ⟨start, closing.span.stop⟩)

/-- Reads an opening angle bracket. -/
def angle (piece : Piece) (s : Inlines) : Inlines :=
  let glyphs := piece.here.drop 1
  let text := charsOf glyphs
  match autolink? text with
  | some (target, rest) =>
    let size := text.length - rest.length
    let inside := glyphs.take (size - 1)
    let stop := (spanOf piece.span.stop (glyphs.take size)).stop
    let children := [.text (charsOf inside) (spanOf piece.span.stop inside)]
    { s with resume := stop }.add (.link false children target ⟨piece.span.start, stop⟩)
  | none =>
    match inlineHtml? text with
    | some rest =>
      let html := piece.here.take (1 + (text.length - rest.length))
      let span := spanOf piece.span.stop html
      { s with resume := span.stop }.add (.html (rawOf html) span)
    | none => s.addSign ['<'] piece.span

/-- Where a bracket leads to that a label follows or that is a label: the destination, the offset
where the link stops and the offset to go on from. -/
def reference? (definitions : List Definition) (bracket : Bracket) (piece : Piece)
    (next : Option Piece) (tried : List Nat) : Option (List Char × Nat × Nat) × List Nat :=
  let own (resume : Nat) : Option (List Char × Nat × Nat) :=
    if tried.contains piece.span.start then none
    else
      match label? (charsOf (glyphsBefore piece.span.stop bracket.here)) with
      | some (key, []) => (lookupLabel definitions key).map (·, piece.span.stop, resume)
      | _ => none
  match next with
  | none => (own piece.span.stop, tried)
  | some next =>
    if (charsOf next.here).take 2 = ['[', ']'] then (own (next.span.start + 2), tried)
    else
      match label? (charsOf next.here) with
      | none => (own piece.span.stop, tried)
      | some (key, rest) =>
        let label := next.here.take (next.here.length - rest.length)
        let stop := (spanOf piece.span.stop label).stop
        ((lookupLabel definitions key).map (·, stop, stop), (stop - 1) :: tried)

/-- Reads a closing square bracket. -/
def linkStop (definitions : List Definition) (piece : Piece) (next : Option Piece) (s : Inlines) :
    Inlines :=
  let giveUp (s : Inlines) : Inlines := s.flatten.addSign [']'] piece.span
  match s.brackets with
  | [] => giveUp s
  | bracket :: brackets =>
    if !bracket.usable then giveUp s
    else
      let glyphs := piece.here.drop 1
      match inlineTarget? (charsOf glyphs) with
      | some (target, rest) =>
        let stop := (spanOf piece.span.stop (glyphs.take (glyphs.length - rest.length))).stop
        s.close bracket brackets target stop stop
      | none =>
        let (found, tried) := reference? definitions bracket piece next s.tried
        let s := { s with tried }
        match found with
        | some (target, stop, resume) => s.close bracket brackets target stop resume
        | none => giveUp s

/-- Reads a piece; `pieces` are those after it. -/
def piece (definitions : List Definition) (piece : Piece) (pieces : List Piece) (s : Inlines) :
    Inlines :=
  match piece.mark with
  | .plain text => s.add (.text (charsOf text) piece.span)
  | .reference text => s.add (.text text piece.span)
  | .lineBreak => s.add (.lineBreak piece.span)
  | .ticks count escaped => s.ticks piece count escaped pieces
  | .angle => s.angle piece
  | .imageStart => s.enter true piece
  | .linkStart => s.enter false piece
  | .linkStop => s.linkStop definitions piece pieces.head?
  | .run sign count before after => s.add (.run ⟨sign, count, before, after⟩ piece.span)

/-- Reads pieces. -/
def pieces (definitions : List Definition) (s : Inlines) : List Piece → Inlines
  | [] => s
  | piece :: rest =>
    if piece.span.stop ≤ s.resume then s.pieces definitions rest
    else (s.piece definitions (piece.trim s.resume) rest).pieces definitions rest

/-- Gives up on all open brackets. -/
def flattenAll (s : Inlines) : List Bracket → Inlines
  | [] => s
  | _ :: brackets => s.flatten.flattenAll brackets

end Inlines

/-- The parts of the text of a paragraph or heading. -/
def inlinesOf (definitions : List Definition) (glyphs : List Glyph) : List Inline :=
  let s := Inlines.empty.pieces definitions (piecesOf glyphs)
  settleRuns (s.flattenAll s.brackets).inner.reverse

end Gamebook.Markup
