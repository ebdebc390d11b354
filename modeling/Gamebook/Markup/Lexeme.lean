import Gamebook.Markup.Block
import Gamebook.Markup.Inline.Link
import Gamebook.Text.Blank
import Gamebook.Text.Split

/-!
# Lexemes

A document in the form that stories are read from: a list of headings, texts, links and the like,
where the ends of blocks are breaks and emphasis is not set apart from text. Main definitions:
`Token`, `Lexeme`, `lexemesOf`.
-/

namespace Gamebook.Markup

/-- A part of a document. -/
inductive Token where
  /-- A heading with its level and the id that a comment in it gives. -/
  | heading (level : Nat) (text : List Char) (anchor : Option (List Char))
  /-- Running text. -/
  | text (text : List Char)
  /-- The end of a line inside of a block. -/
  | softBreak
  /-- The end of a block. -/
  | break
  /-- An image. -/
  | image (alt url : List Char)
  /-- A link. -/
  | link (text href : List Char)
  /-- Code inside of a line. -/
  | code (text : List Char)
  /-- A fenced block of code. -/
  | fence (info content : List Char)
  /-- A comment for the story. -/
  | comment (text : List Char)
  deriving DecidableEq, Repr

/-- A token with its place. -/
structure Lexeme where
  /-- The token. -/
  token : Token
  /-- The range of the source that it comes from. -/
  span : Span
  /-- Whether it is in a quote. -/
  quoted : Bool
  /-- Whether it is in an item of a list. -/
  listed : Bool
  deriving DecidableEq, Repr

/-- The comment that is written above a flowchart. -/
def flowchartNotice : String :=
  "<!-- This chart is autogenerated -->"

/-- The words after the fence of a flowchart. -/
def flowchartInfo : String :=
  "mermaid"

/-- Whether HTML is a comment for the story: one with a third dash. -/
def isComment (html : List Char) : Bool :=
  (Text.dropPrefix? "<!---".toList (html.dropWhile Text.isBlank)).isSome

/-- The text of a comment. -/
def commentBody (html : List Char) : List Char :=
  let html := Text.trim html
  let body := (Text.dropPrefix? ['<', '!'] html).getD html
  let body :=
    ((Text.dropPrefix? ['-', '-', '-'] body).or (Text.dropPrefix? ['-', '-'] body)).getD body
  Text.trim ((Text.dropSuffix? ['-', '-', '>'] body).getD body)

/-- A heading that is being read. -/
structure HeadingText where
  /-- Its text so far. -/
  text : List Char
  /-- The id that a comment in it gives. -/
  anchor : Option (List Char)
  deriving DecidableEq, Repr

/-- A link or image that is being read. -/
structure LinkText where
  /-- The text that stands for it so far. -/
  text : List Char
  /-- Where it leads. -/
  target : List Char
  /-- The offset of its start. -/
  start : Nat
  deriving DecidableEq, Repr

/-- The lexemes that are read so far, and what is being read. -/
structure Lexemes where
  /-- The lexemes, last one first. -/
  done : List Lexeme
  /-- Whether the place is in a quote. -/
  quoted : Bool
  /-- Whether the place is in an item. -/
  listed : Bool
  /-- The open heading. -/
  heading : Option HeadingText
  /-- The open link. -/
  link : Option LinkText
  /-- The open image; of images in one another only the innermost is open. -/
  image : Option LinkText
  deriving Repr

namespace Lexemes

/-- Nothing is read yet. -/
def empty : Lexemes :=
  ⟨[], false, false, none, none, none⟩

/-- Adds a token. -/
def push (token : Token) (span : Span) (s : Lexemes) : Lexemes :=
  { s with done := ⟨token, span, s.quoted, s.listed⟩ :: s.done }

/-- Adds a break, unless there is one. -/
def pushBreak (span : Span) (s : Lexemes) : Lexemes :=
  match s.done with
  | ⟨.break, _, _, _⟩ :: _ => s
  | _ => s.push .break span

/-- Adds text to what is being read, or else to the text before it. -/
def text (text : List Char) (span : Span) (s : Lexemes) : Lexemes :=
  match s.image, s.link, s.heading, s.done with
  | some image, _, _, _ => { s with image := some { image with text := image.text ++ text } }
  | none, some link, _, _ => { s with link := some { link with text := link.text ++ text } }
  | none, none, some heading, _ =>
    { s with heading := some { heading with text := heading.text ++ text } }
  | none, none, none, ⟨.text before, place, quoted, listed⟩ :: done =>
    { s with done := ⟨.text (before ++ text), ⟨place.start, span.stop⟩, quoted, listed⟩ :: done }
  | none, none, none, _ => s.push (.text text) span

/-- Whether a heading, link or image is being read. -/
def isInside (s : Lexemes) : Bool :=
  s.heading.isSome || s.link.isSome || s.image.isSome

/-- Adds HTML, of which only comments matter. A comment in a heading may give its id. -/
def html (html : List Char) (span : Span) (s : Lexemes) : Lexemes :=
  match s.heading with
  | some heading =>
    if isComment html then
      match Text.dropPrefix? ['#'] (commentBody html) with
      | some anchor => { s with heading := some { heading with anchor := some (Text.trim anchor) } }
      | none => s
    else s
  | none => if isComment html then s.push (.comment (commentBody html)) span else s

/-- Starts a link or image. -/
def enter (image : Bool) (target : List Char) (start : Nat) (s : Lexemes) : Lexemes :=
  if image then { s with image := some ⟨[], target, start⟩ }
  else { s with link := some ⟨[], target, start⟩ }

/-- Ends a link or image. -/
def leave (image : Bool) (stop : Nat) (s : Lexemes) : Lexemes :=
  if image then
    match s.image with
    | some ⟨text, url, start⟩ => { s with image := none }.push (.image text url) ⟨start, stop⟩
    | none => s
  else
    match s.link with
    | some ⟨text, href, start⟩ => { s with link := none }.push (.link text href) ⟨start, stop⟩
    | none => s

mutual

/-- Adds a part of running text. -/
def inline (s : Lexemes) : Inline → Lexemes
  | .text chars span => s.text chars span
  | .run run span => s.text (.replicate run.count run.sign) span
  | .lineBreak span => if s.isInside then s.text [' '] span else s.push .softBreak span
  | .code chars span => if s.isInside then s.text chars span else s.push (.code chars) span
  | .html chars span => s.html chars span
  | .link image children target span =>
    ((s.enter image target span.start).inlines children).leave image span.stop

/-- Adds parts of running text. -/
def inlines (s : Lexemes) : List Inline → Lexemes
  | [] => s
  | part :: parts => (s.inline part).inlines parts

end

mutual

/-- Adds a block; a paragraph that is not set apart gives no break. -/
def block (definitions : List Definition) (tight : Bool) (s : Lexemes) : Block → Lexemes
  | .paragraph text span =>
    let s := s.inlines (inlinesOf definitions text)
    if tight then s else s.pushBreak span
  | .heading level text span =>
    let s := { s with heading := some ⟨[], none⟩ }.inlines (inlinesOf definitions text)
    match s.heading with
    | some heading =>
      { s with heading := none }.push (.heading level (Text.trim heading.text) heading.anchor) span
    | none => s
  | .fence info content span =>
    let info := Text.trim info
    (if info = flowchartInfo.toList then s else s.push (.fence info content) span).pushBreak span
  | .indented span => s.pushBreak span
  | .html content span => s.html content span
  | .quote children span =>
    let outer := s.quoted
    let s := ({ s with quoted := true }.blocks definitions false children).pushBreak span
    { s with quoted := outer }
  | .list tight items => s.blocks definitions tight items
  | .item children span =>
    let outer := s.listed
    let s := ({ s with listed := true }.blocks definitions tight children).pushBreak span
    { s with listed := outer }

/-- Adds blocks. -/
def blocks (definitions : List Definition) (tight : Bool) (s : Lexemes) : List Block → Lexemes
  | [] => s
  | block :: blocks => (s.block definitions tight block).blocks definitions tight blocks

end

end Lexemes

/-- The lexemes of a document. -/
def lexemesOf (source : List Char) : List Lexeme :=
  let (blocks, definitions) := outlineOf source
  (Lexemes.empty.blocks definitions false blocks).done.reverse

end Gamebook.Markup
