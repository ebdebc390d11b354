import Gamebook.Markup.Escape
import Gamebook.Markup.Source
import Gamebook.Text.Lowercase
import Gamebook.Text.Split

/-!
# Where links lead

The pieces of links: destinations, titles and labels, and the definitions of labels. Every function
takes a text from the piece on and gives the rest after it. Main definitions: `destination?`,
`inlineTarget?`, `label?`, `definition?`.
-/

namespace Gamebook.Markup

/-- Whether a character is white space, a line feed included. -/
def isLineSpace (c : Char) : Bool :=
  isSpace c || c == '\n'

/-- Puts a character in front of the text of a result. -/
def consText (c : Char) (result : Option (List Char × List Char)) : Option (List Char × List Char) :=
  result.map fun (text, rest) => (c :: text, rest)

/-- The text of a destination in angle brackets, where the first character may be escaped. -/
def bracketed? : (escaped : Bool) → List Char → Option (List Char × List Char)
  | _, [] => none
  | true, c :: cs => consText c (bracketed? false cs)
  | false, c :: cs =>
    if c = '\n' ∨ c = '<' then none
    else if c = '>' then some ([], cs)
    else consText c (bracketed? (c == '\\' && startsEscapable cs) cs)

/-- The text of a destination up to a blank or an unmatched bracket; at most `limit` may be open. -/
def bare? (limit : Nat) : (nest : Nat) → (escaped : Bool) → List Char → Option (List Char × List Char)
  | nest, _, [] => if nest = 0 then some ([], []) else none
  | nest, true, c :: cs => consText c (bare? limit nest false cs)
  | nest, false, c :: cs =>
    if c.toNat ≤ 32 then if nest = 0 then some ([], c :: cs) else none
    else if c = '(' then
      if limit < nest then none else consText c (bare? limit (nest + 1) false cs)
    else if c = ')' then
      if nest = 0 then some ([], c :: cs) else consText c (bare? limit (nest - 1) false cs)
    else consText c (bare? limit nest (c == '\\' && startsEscapable cs) cs)

/-- A destination as it is written, and the rest after it. -/
def destination? (limit : Nat) : List Char → Option (List Char × List Char)
  | '<' :: cs => bracketed? false cs
  | cs => bare? limit 0 false cs

/-- How many brackets may be open in the destination of a link. -/
def maxLinkNesting : Nat := 5

/-- How many brackets may be open in the destination of a definition. -/
def maxDefinitionNesting : Nat := 1

/-- Skips a title up to its closing sign, where the first character may be escaped. -/
def titleEnd? (opening closing : Char) : (escaped : Bool) → List Char → Option (List Char)
  | _, [] => none
  | true, _ :: cs => titleEnd? opening closing false cs
  | false, c :: cs =>
    if c = closing then some cs
    else if c = opening then none
    else titleEnd? opening closing (c == '\\' && startsEscapable cs) cs

/-- The sign that closes a title. -/
def titleClosing? (c : Char) : Option Char :=
  if c = '\x22' ∨ c = '\x27' then some c else if c = '(' then some ')' else none

/-- Skips the title of a link, if there is one. -/
def skipTitle (cs : List Char) : List Char :=
  match cs with
  | [] => []
  | c :: rest =>
    match titleClosing? c with
    | none => cs
    | some closing =>
      match titleEnd? c closing false rest with
      | some after => after.dropWhile isLineSpace
      | none => cs

/-- The destination of a link in round brackets, and the rest after the brackets. -/
def inlineTarget? : List Char → Option (List Char × List Char)
  | '(' :: cs => do
    let (dest, rest) ← destination? maxLinkNesting (cs.dropWhile isLineSpace)
    match skipTitle (rest.dropWhile isLineSpace) with
    | ')' :: rest => some (unescape dest, rest)
    | _ => none
  | _ => none

/-- How many characters a label may have. -/
def maxLabel : Nat := 1000

/-- The text of a label up to its closing bracket, where the first character may be escaped. -/
def labelText? : (room : Nat) → (escaped : Bool) → List Char → Option (List Char × List Char)
  | 0, _, _ => none
  | _ + 1, _, [] => none
  | room + 1, true, c :: cs => consText c (labelText? room false cs)
  | room + 1, false, c :: cs =>
    if c = '[' then none
    else if c = ']' then some ([], cs)
    else consText c (labelText? room (c == '\\') cs)

/-- The text with each run of white space written as one space. -/
def collapse : (afterSpace : Bool) → List Char → List Char
  | _, [] => []
  | afterSpace, c :: cs =>
    if isLineSpace c then if afterSpace then collapse true cs else ' ' :: collapse true cs
    else c :: collapse false cs

/-- A label in the form that labels are compared in. -/
def labelKey (cs : List Char) : List Char :=
  Text.lowercase (collapse false cs)

/-- The key of a label, from its opening bracket on, and the rest after its closing bracket. -/
def label? : List Char → Option (List Char × List Char)
  | '[' :: cs => do
    let (text, rest) ← labelText? maxLabel false cs
    if text.all isLineSpace then none else some (labelKey text, rest)
  | _ => none

/-- What a label stands for. -/
structure Definition where
  /-- The label in the form that labels are compared in. -/
  key : List Char
  /-- The destination. -/
  target : List Char
  deriving DecidableEq, Repr

/-- Skips white space with at most one line feed; gives the number of line feeds. -/
def skipBreak? (cs : List Char) : Option (Nat × List Char) :=
  match cs.dropWhile isSpace with
  | '\n' :: rest =>
    match rest.dropWhile isSpace with
    | '\n' :: _ => none
    | [] => none
    | rest => some (1, rest)
  | [] => none
  | rest => some (0, rest)

/-- Skips a title of a definition, in which every character may be escaped. -/
def definitionTitle? (closing : Char) : (escaped : Bool) → List Char → Option (List Char)
  | _, [] => none
  | true, _ :: cs => definitionTitle? closing false cs
  | false, c :: cs =>
    if c = closing then some cs else definitionTitle? closing (c == '\\') cs

/-- Skips the rest of a line that must be blank. -/
def blankLine? (cs : List Char) : Option (List Char) :=
  match cs.dropWhile isSpace with
  | [] => some []
  | '\n' :: rest => some rest
  | _ => none

/-- Skips the title of a definition and the rest of its line. -/
def titleLine? (cs : List Char) : Option (List Char) :=
  match cs with
  | [] => none
  | c :: rest => do
    let closing ← titleClosing? c
    blankLine? (← definitionTitle? closing false rest)

/-- The definition that a paragraph starts with, and the lines after it. -/
def definition? (cs : List Char) : Option (Definition × List Char) := do
  let (key, rest) ← label? cs
  let rest ← Text.dropPrefix? [':'] rest
  let (_, rest) ← skipBreak? rest
  let (dest, after) ← destination? maxDefinitionNesting rest
  if after.length = rest.length then none
  else
    let made : Definition := ⟨key, unescape dest⟩
    match skipBreak? after with
    | none => (blankLine? after).map (made, ·)
    | some (breaks, title) =>
      if breaks = 0 then
        if title.length = after.length then none else (titleLine? title).map (made, ·)
      else
        match titleLine? title with
        | some rest => some (made, rest)
        | none => (blankLine? after).map (made, ·)

end Gamebook.Markup
