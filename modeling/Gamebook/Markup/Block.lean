import Gamebook.Markup.Cursor
import Gamebook.Markup.Destination
import Gamebook.Markup.Html

/-!
# Blocks

A document is a tree of blocks: containers (quotes, lists, items) and leaves. It is read line by
line: a line first continues the open containers, then may open new ones, and the rest of it goes to
the leaf. Main definitions: `Block`, `Outline` (what is read so far), `Outline.read`, `outlineOf`.
-/

namespace Gamebook.Markup

/-- A block of a document. The text of a paragraph or heading is a list of glyphs. -/
inductive Block where
  /-- A paragraph. -/
  | paragraph (text : List Glyph) (span : Span)
  /-- A heading with its level. -/
  | heading (level : Nat) (text : List Glyph) (span : Span)
  /-- A fenced block of code with the words after its opening fence. -/
  | fence (info content : List Char) (span : Span)
  /-- A block of code that is marked by its indentation. -/
  | indented (span : Span)
  /-- A block of HTML. -/
  | html (content : List Char) (span : Span)
  /-- A quote. -/
  | quote (children : List Block) (span : Span)
  /-- A list; in a tight one the paragraphs of the items are not set apart. -/
  | list (tight : Bool) (items : List Block)
  /-- An item of a list. -/
  | item (children : List Block) (span : Span)
  deriving Repr

/-- An open container. -/
inductive Container where
  /-- A quote with the offset of its start. -/
  | quote (start : Nat)
  /-- A list with the sign of its items, and whether it is tight so far. -/
  | list (sign : Char) (tight : Bool)
  /-- An item with the offset of its start and the indentation of its content. -/
  | item (start indent : Nat)
  deriving DecidableEq, Repr

/-- An open container with the blocks that it holds so far, last one first. -/
structure Frame where
  /-- The container. -/
  container : Container
  /-- The finished blocks in it, last one first. -/
  blocks : List Block
  deriving Repr

/-- A leaf that the next line may continue. -/
inductive Leaf where
  /-- A paragraph; its text has the line endings. -/
  | paragraph (start : Nat) (text : List Glyph)
  /-- A fenced block: its indentation, the sign and the size of its fence. -/
  | fence (start indent : Nat) (sign : Char) (size : Nat) (info content : List Char)
  /-- An indented block that reaches so far. -/
  | indented (start stop : Nat)
  /-- A block of HTML, and how it ends. -/
  | html (start : Nat) (ending : HtmlStart) (content : List Char)
  deriving Repr

/-- What is read of a document so far. -/
structure Outline where
  /-- The open containers, the innermost first. -/
  frames : List Frame
  /-- The finished blocks outside of them, last one first. -/
  blocks : List Block
  /-- The leaf that is open in the innermost container. -/
  leaf : Option Leaf
  /-- Whether the last line was blank. -/
  afterBlank : Bool
  /-- Where the marker of an item stops that has no content yet. -/
  emptyItem : Option Nat
  /-- The definitions of labels, the first one first. -/
  definitions : List Definition
  deriving Repr

/-- The last of some glyphs, as many as a rest of their text has, without white space in front. -/
def dropTo (rest : List Char) (glyphs : List Glyph) : List Glyph :=
  (glyphs.drop (glyphs.length - rest.length)).dropWhile (isSpace ·.char)

/-- The definitions that a text starts with, and the text after them. -/
def takeDefinitions : (fuel : Nat) → List Glyph → List Definition × List Glyph
  | 0, glyphs => ([], glyphs)
  | fuel + 1, glyphs =>
    match definition? (charsOf glyphs) with
    | none => ([], glyphs)
    | some (made, rest) =>
      let (more, glyphs) := takeDefinitions fuel (dropTo rest glyphs)
      (made :: more, glyphs)

namespace Outline

/-- Nothing is read yet. -/
def empty : Outline :=
  ⟨[], [], none, false, none, []⟩

/-- Adds a finished block to the innermost container. -/
def add (block : Block) (o : Outline) : Outline :=
  match o.frames with
  | [] => { o with blocks := block :: o.blocks }
  | frame :: frames => { o with frames := { frame with blocks := block :: frame.blocks } :: frames }

/-- Opens a container. -/
def enter (container : Container) (o : Outline) : Outline :=
  { o with frames := ⟨container, []⟩ :: o.frames }

/-- Closes the innermost container. -/
def closeFrame (stop : Nat) (o : Outline) : Outline :=
  match o.frames with
  | [] => o
  | frame :: frames =>
    let blocks := frame.blocks.reverse
    let o := { o with frames := frames }
    match frame.container with
    | .quote start => o.add (.quote blocks ⟨start, stop⟩)
    | .item start _ => o.add (.item blocks ⟨start, stop⟩)
    | .list _ tight =>
      let o := o.add (.list tight blocks)
      if tight then { o with emptyItem := none } else o

/-- Closes a number of containers. -/
def closeFrames (stop : Nat) : (count : Nat) → Outline → Outline
  | 0, o => o
  | count + 1, o => closeFrames stop count (o.closeFrame stop)

/-- Closes the open leaf. A paragraph gives its definitions away and is dropped if it has no more. -/
def closeLeaf (stop : Nat) (o : Outline) : Outline :=
  match o.leaf with
  | none => o
  | some leaf =>
    let o := { o with leaf := none }
    match leaf with
    | .paragraph start text =>
      let (made, rest) := takeDefinitions text.length text
      let o := { o with definitions := o.definitions ++ made }
      match rest with
      | [] => o
      | first :: _ =>
        o.add (.paragraph rest ⟨if made.isEmpty then start else first.span.start, stop⟩)
    | .fence start _ _ _ info content => o.add (.fence info content ⟨start, stop⟩)
    | .indented start stop => o.add (.indented ⟨start, stop⟩)
    | .html start _ content => o.add (.html content ⟨start, stop⟩)

/-- Whether the innermost container is an item. -/
def inItem (o : Outline) : Bool :=
  match o.frames with
  | ⟨.item .., _⟩ :: _ => true
  | _ => false

/-- Closes an item that a blank line followed before it had any content. -/
def finishEmptyItem (o : Outline) : Outline :=
  match o.emptyItem with
  | none => o
  | some stop =>
    let o := if o.afterBlank && o.inItem then o.closeFrame stop else o
    { o with emptyItem := none }

/-- Makes the list loose that the innermost container is an item of. -/
def loosen (o : Outline) : Outline :=
  match o.frames with
  | frame :: ⟨.list sign _, blocks⟩ :: frames =>
    { o with frames := frame :: ⟨.list sign false, blocks⟩ :: frames }
  | _ => o

/-- Closes a list that the next block does not go on with. -/
def finishList (stop : Nat) (o : Outline) : Outline :=
  let o := o.finishEmptyItem
  let o :=
    match o.frames with
    | ⟨.list .., _⟩ :: _ => o.closeFrame stop
    | _ => o
  if o.afterBlank then { o.loosen with afterBlank := false } else o

/-- Starts a list. -/
def enterList (sign : Char) (o : Outline) : Outline :=
  { o.enter (.list sign true) with afterBlank := false }

/-- Goes on with a list that has the same sign, or starts a new one. -/
def continueList (start : Nat) (sign : Char) (o : Outline) : Outline :=
  let o := o.finishEmptyItem
  match o.frames with
  | ⟨.list found tight, blocks⟩ :: frames =>
    if found = sign then
      let frame := ⟨.list sign (tight && !o.afterBlank), blocks⟩
      { o with frames := frame :: frames, afterBlank := false }
    else (o.finishList start).enterList sign
  | _ => (o.finishList start).enterList sign

end Outline

/-- Whether a line continues a container, and the place after what it takes of the line. -/
def Container.continue? (c : Cursor) : Container → Option Cursor
  | .quote _ => (c.skip 3).2.quoteMarker?
  | .list .. => some c
  | .item _ indent =>
    let (missing, after) := c.skip indent
    if missing = 0 ∨ after.rest = [] then some after else none

/-- How many of some containers, the outermost first, a line continues, and the place after. -/
def continued (c : Cursor) : List Container → Nat × Cursor
  | [] => (0, c)
  | container :: containers =>
    match container.continue? c with
    | none => (0, c)
    | some c =>
      let (count, c) := continued c containers
      (count + 1, c)

/-- The level of a heading that a line of signs makes of the paragraph before it. -/
def underlineLevel? : List Char → Option Nat
  | [] => none
  | c :: cs =>
    if c ≠ '=' ∧ c ≠ '-' then none
    else if isBlankText (cs.dropWhile (· == c)) then some (if c = '=' then 1 else 2) else none

/-- The level of a heading that starts with a line. -/
def headingLevel? (cs : List Char) : Option Nat :=
  let level := (cs.takeWhile (· == '#')).length
  if 1 ≤ level ∧ level ≤ 6 then
    match cs.drop level with
    | [] => some level
    | c :: _ => if isSpace c then some level else none
  else none

/-- The sign and the size of a fence that a line starts with, which may have words after it. -/
def openingFence? (cs : List Char) : Option (Char × Nat) :=
  match cs with
  | [] => none
  | sign :: _ =>
    let size := (cs.takeWhile (· == sign)).length
    if (sign = '\x60' ∧ '\x60' ∉ cs.drop size) ∨ sign = '~' then
      if 3 ≤ size then some (sign, size) else none
    else none

/-- Whether a line is a fence that closes a block with a fence of some sign and size. -/
def isClosingFence (sign : Char) (size : Nat) (cs : List Char) : Bool :=
  size ≤ (cs.takeWhile (· == sign)).length &&
    (cs.dropWhile (· == sign)).all (· == ' ')

/-- The end of a heading's text: closing signs after a space and spaces are left out. -/
def trimHeading (text : List Char) : List Char :=
  let text := text.reverse.dropWhile (· == ' ')
  match text.dropWhile (· == '#') with
  | [] => []
  | c :: cs => (if c = ' ' then (c :: cs).dropWhile (· == ' ') else text).reverse

/-- The glyphs of a line from a place on, with its ending. -/
def glyphsOf (line : Line) (c : Cursor) : List Glyph :=
  glyphsFrom c.offset c.rest ++
    if line.ending.isEmpty then []
    else [⟨'\n', ⟨line.textStop, line.stop⟩, line.ending⟩]

/-- The ending of a line in content that is taken as it is. -/
def endingOf (line : Line) : List Char :=
  if line.ending.isEmpty then [] else ['\n']

/-- The text of a line from a place on, with its ending. -/
def contentOf (line : Line) (c : Cursor) : List Char :=
  List.replicate c.pending ' ' ++ c.rest ++ endingOf line

/-- Joins a line to the text of a paragraph; `dropped` is what the containers take of the line. -/
def joinLine (text : List Glyph) (dropped : List Char) (more : List Glyph) : List Glyph :=
  match text.getLast? with
  | none => more
  | some last => text.dropLast ++ { last with raw := last.raw ++ dropped } :: more

/-- Whether a line starts a block that a paragraph may not go on with. -/
def interrupts (line : Line) (inside : Bool) (c : Cursor) : Bool :=
  c.rest.isEmpty || isRule c.rest || (headingLevel? c.rest).isSome ||
    (openingFence? c.rest).isSome || c.rest.head? == some '>' ||
    (match listMarker? 0 c with
      | none => false
      | some (marker, after) =>
        !inside ||
          (isBullet marker.sign || marker.index == 1) && !(after.isBlank && line.beforeBlank)) ||
    (firmHtmlStart? c.rest).isSome

/-- Whether a text has nothing but definitions, and their number. -/
def definitionCount? (text : List Glyph) : Option Nat :=
  match takeDefinitions text.length text with
  | (made, []) => some made.length
  | _ => none

/-- Whether a line ends the definitions that the text before it has nothing else than: it is outside
of their container, or has no title that goes with the last of them. -/
def endsDefinitions (inside : Bool) (text joined : List Glyph) (line : List Char) : Bool :=
  match definitionCount? text with
  | none => false
  | some count =>
    !inside ||
      (definitionCount? joined != some count && (line.head?.bind titleClosing?).isNone)

/-- Whether a line makes definitions of all of a text that has more than that without it. -/
def completesDefinition (text joined : List Glyph) : Bool :=
  (definitionCount? text).isNone && (definitionCount? joined).isSome

namespace Outline

/-- Starts the leaf that is at a place of a line that is not blank. -/
def startLeaf (line : Line) (c : Cursor) (o : Outline) : Outline :=
  let o := o.finishList line.start
  let (indent, inner) := c.skipUpTo 4
  if indent = 4 then
    { o with leaf := some (.indented inner.offset line.stop), afterBlank := false }
  else
    match htmlStart? inner.rest with
    | some ending =>
      let o := { o with leaf := some (.html inner.offset ending (contentOf line inner)) }
      match ending with
      | .beforeBlank => o
      | .through piece => if Text.occurs piece inner.rest then o.closeLeaf line.stop else o
    | none =>
      if isRule inner.rest then o
      else
        match headingLevel? inner.rest with
        | some level =>
          let text := (inner.rest.drop level).dropWhile isSpace
          let glyphs := glyphsFrom (line.textStop - Text.byteSize text) (trimHeading text)
          o.add (.heading level glyphs ⟨inner.offset, line.stop⟩)
        | none =>
          match openingFence? inner.rest with
          | some (sign, size) =>
            let info := (inner.rest.drop size).dropWhile isSpace
            let info := unescape (info.reverse.dropWhile isSpace).reverse
            { o with leaf := some (.fence inner.offset indent sign size info []) }
          | none => { o with leaf := some (.paragraph inner.offset (glyphsOf line inner)) }

/-- Reads a blank rest of a line. -/
def blankLine (o : Outline) : Outline :=
  match o.frames with
  | ⟨.quote _, _⟩ :: _ => o
  | ⟨.item start _, blocks⟩ :: frames =>
    let o := { o with afterBlank := true }
    if o.emptyItem.isSome then { o with frames := ⟨.item start 0, blocks⟩ :: frames } else o
  | _ => { o with afterBlank := true }

/-- Opens the containers that a line starts at a place, and the leaf after them. -/
def startBlocks (line : Line) : (fuel : Nat) → Cursor → Outline → Outline
  | 0, _, o => o
  | fuel + 1, c, o =>
    let (indent, inner) := c.skipUpTo 4
    let finish := if c.isBlank then o.blankLine else o.startLeaf line c
    if indent = 4 then finish
    else
      match listMarker? indent inner with
      | some (marker, after) =>
        let start := inner.offset - indent
        let o := (o.continueList start marker.sign).enter (.item start marker.indent)
        if after.isBlank then { o with emptyItem := some line.stop }
        else o.startBlocks line fuel after
      | none =>
        match inner.quoteMarker? with
        | some after =>
          ((o.finishList line.start).enter (.quote inner.offset)).startBlocks line fuel after
        | none => finish

/-- Reads a line that no open leaf goes on with: `count` open containers go on. -/
def startLine (line : Line) (count : Nat) (c : Cursor) (o : Outline) : Outline :=
  let o := o.closeLeaf line.start
  (o.closeFrames line.start (o.frames.length - count)).startBlocks line (c.rest.length + 1) c

/-- Makes a heading of an open paragraph that has more than definitions. -/
def underline? (line : Line) (level start : Nat) (text : List Glyph) (o : Outline) :
    Option Outline :=
  match takeDefinitions text.length text with
  | (_, []) => none
  | (made, rest) =>
    let start := if made.isEmpty then start else (spanOf start rest).start
    let o := { o with leaf := none, definitions := o.definitions ++ made }
    some (o.add (.heading level rest ⟨start, line.stop⟩))

/-- Reads a line after a line of a paragraph. -/
def paragraphLine (line : Line) (start : Nat) (text : List Glyph) (count : Nat) (c : Cursor)
    (o : Outline) : Outline :=
  let inside := count == o.frames.length
  let (indent, inner) := c.skipUpTo 4
  let dropped := line.text.take (line.text.length - c.rest.length)
  let joined := joinLine text dropped (glyphsOf line c)
  let join := { o with leaf := some (.paragraph start joined) }
  let goOn := if inner.skipAll.rest.isEmpty then o.startLine line count c else join
  if endsDefinitions inside text joined inner.skipAll.rest then o.startLine line count c
  else if inside && completesDefinition text joined then join
  else if indent = 4 then goOn
  else
    match if inside then underlineLevel? inner.rest else none with
    | some level =>
      match o.underline? line level start text with
      | some o => o
      | none => o.startLine line count c
    | none => if interrupts line inside inner then o.startLine line count c else goOn

/-- Reads a line. -/
def read (o : Outline) (line : Line) : Outline :=
  let (count, c) := continued (.ofLine line) (o.frames.reverse.map (·.container))
  let inside := count == o.frames.length
  match o.leaf with
  | none => o.startLine line count c
  | some (.paragraph start text) => o.paragraphLine line start text count c
  | some (.fence start indent sign size info content) =>
    if inside then
      let inner := (c.skip indent).2
      let (columns, edge) := inner.skipUpTo 4
      if columns < 4 ∧ isClosingFence sign size edge.rest then
        o.closeLeaf line.textStop
      else
        { o with leaf := some (.fence start indent sign size info (content ++ contentOf line inner)) }
    else o.startLine line count c
  | some (.indented start stop) =>
    let (missing, inner) := c.skip 4
    if inside ∧ (missing = 0 ∨ inner.rest.isEmpty) then
      { o with
        leaf := some (.indented start (if inner.isBlank then stop else line.stop))
        afterBlank := inner.isBlank }
    else o.startLine line count c
  | some (.html start (.through piece) content) =>
    if inside then
      let o := { o with leaf := some (.html start (.through piece) (content ++ contentOf line c)) }
      if Text.occurs piece c.rest then o.closeLeaf line.stop else o
    else o.startLine line count c
  | some (.html start .beforeBlank content) =>
    if inside ∧ !c.isBlank then
      { o with leaf := some (.html start .beforeBlank (content ++ contentOf line c)) }
    else o.startLine line count c

/-- Closes all that is open at the end of the source. -/
def finish (stop : Nat) (o : Outline) : Outline :=
  let o := o.closeLeaf stop
  o.closeFrames stop o.frames.length

end Outline

/-- The blocks of a source and the definitions of labels in it. -/
def outlineOf (source : List Char) : List Block × List Definition :=
  let o := ((linesOf source).foldl Outline.read .empty).finish (Text.byteSize source)
  (o.blocks.reverse, o.definitions)

end Gamebook.Markup
