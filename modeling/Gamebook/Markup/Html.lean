import Gamebook.Markup.Source
import Gamebook.Text.Split

/-!
# HTML in a document

How HTML is recognised: the beginnings of the kinds of HTML blocks, tags, comments and the like
inside of a line, and addresses in angle brackets. Main definitions: `HtmlStart`, `htmlStart?`,
`inlineHtml?`, `autolink?`.
-/

namespace Gamebook.Markup

/-- Whether a character is white space between the attributes of a tag. -/
def isTagSpace (c : Char) : Bool :=
  isSpace c || c == '\n'

/-- Skips the rest of the name of an attribute. -/
def skipAttributeName (cs : List Char) : List Char :=
  cs.dropWhile fun c => c.isAlphanum || c == '_' || c == '.' || c == ':' || c == '-'

/-- Skips the value of an attribute. -/
def attributeValue? : List Char → Option (List Char)
  | [] => none
  | c :: cs =>
    if c = '\x22' ∨ c = '\x27' then Text.dropThrough? [c] cs
    else if c ∈ [' ', '=', '>', '<', '\x60', '\t', '\n'] then none
    else some ((c :: cs).dropWhile fun d =>
      !(d ∈ [' ', '\t', '\n', '\x22', '\x27', '=', '<', '>', '\x60']))

/-- Skips an attribute. White space after an attribute without value is left. -/
def attribute? : List Char → Option (List Char)
  | [] => none
  | c :: cs =>
    if c.isAlpha || c == '_' || c == ':' then
      let rest := skipAttributeName cs
      match rest.dropWhile isTagSpace with
      | '=' :: value => attributeValue? (value.dropWhile isTagSpace)
      | _ => some rest
    else none

/-- Skips attributes up to the end of a tag. -/
def attributes? : (fuel : Nat) → List Char → Option (List Char)
  | 0, _ => none
  | fuel + 1, cs =>
    let rest := cs.dropWhile isTagSpace
    match rest with
    | [] => none
    | c :: _ =>
      if c = '/' ∨ c = '>' then some rest
      else if rest.length = cs.length then none
      else (attribute? rest).bind (attributes? fuel)

/-- Skips an opening or closing tag, from the character after its angle bracket on. -/
def tag? (cs : List Char) : Option (List Char) :=
  let (closing, name) :=
    match cs with
    | '/' :: name => (true, name)
    | name => (false, name)
  match name with
  | [] => none
  | c :: after =>
    if c.isAlpha then
      let after := after.dropWhile fun d => d.isAlphanum || d == '-'
      if closing then Text.dropPrefix? ['>'] (after.dropWhile isSpace)
      else do
        let rest ← attributes? (after.length + 1) after
        match rest with
        | '/' :: rest => Text.dropPrefix? ['>'] rest
        | rest => Text.dropPrefix? ['>'] rest
    else none

/-- Skips the brackets that close a block of character data, of which there must be some. -/
def closeData? (cs : List Char) : Option (List Char) :=
  match cs.dropWhile (· != ']') with
  | [] => none
  | rest => Text.dropPrefix? ['>'] (rest.dropWhile (· == ']'))

/-- Skips a comment, character data or a declaration, from the exclamation mark on. -/
def declaration? (cs : List Char) : Option (List Char) :=
  match Text.dropPrefix? ['-', '-'] cs with
  | some _ => Text.dropThrough? ['-', '-', '>'] cs
  | none =>
    match Text.dropPrefix? "[CDATA[".toList cs with
    | some rest => closeData? rest
    | none =>
      match cs with
      | c :: rest => if c.isAlpha then Text.dropThrough? ['>'] rest else none
      | [] => none

/-- Skips HTML inside of a line, from the character after its angle bracket on. -/
def inlineHtml? : List Char → Option (List Char)
  | '!' :: cs => declaration? cs
  | '?' :: cs => Text.dropThrough? ['?', '>'] cs
  | cs => tag? cs

/-- The address of a link in angle brackets, with its scheme, and the rest after the brackets. -/
def uriLink? (cs : List Char) : Option (List Char × List Char) :=
  match cs with
  | [] => none
  | c :: after =>
    let scheme := after.takeWhile fun d => d.isAlphanum || d == '.' || d == '-' || d == '+'
    match after.drop scheme.length with
    | ':' :: path =>
      let body := path.takeWhile fun d => !(d == '>' || d == '<' || d.toNat ≤ 32)
      match path.drop body.length with
      | '>' :: rest =>
        if c.isAlpha && 1 ≤ scheme.length && scheme.length ≤ 31 then
          some (c :: scheme ++ ':' :: body, rest)
        else none
      | _ => none
    | _ => none

/-- Whether a character may stand before the sign of a mail address. -/
def isMailChar (c : Char) : Bool :=
  c.isAlphanum || c ∈ ".!#$%&'*+/=?^_\x60\x7b|\x7d~-".toList

/-- Whether a text is a part of the domain of a mail address. -/
def isDomainPart (cs : List Char) : Bool :=
  cs.all (fun c => c.isAlphanum || c == '-') && cs != [] && cs.length ≤ 63 &&
    cs.head? != some '-' && cs.getLast? != some '-'

/-- The mail address in angle brackets, and the rest after the brackets. -/
def mailLink? (cs : List Char) : Option (List Char × List Char) := do
  let user := cs.takeWhile isMailChar
  match cs.drop user.length with
  | '@' :: after =>
    let domain := after.takeWhile fun c => c.isAlphanum || c == '-' || c == '.'
    let rest ← Text.dropPrefix? ['>'] (after.drop domain.length)
    if user ≠ [] ∧ (Text.splitOn '.' domain).all isDomainPart then
      some (user ++ '@' :: domain, rest)
    else none
  | _ => none

/-- The address in angle brackets, from the character after the first one on, and the rest. -/
def autolink? (cs : List Char) : Option (List Char × List Char) :=
  (uriLink? cs).or (mailLink? cs)

/-- How an HTML block ends. -/
inductive HtmlStart where
  /-- After the line with a given text. -/
  | through (ending : List Char)
  /-- Before a blank line. -/
  | beforeBlank
  deriving DecidableEq, Repr

/-- The tags whose content is taken as it is. -/
def verbatimTags : List String :=
  ["pre", "style", "script", "textarea"]

/-- The tags that start an HTML block. -/
def blockTags : List String :=
  ["address", "article", "aside", "base", "basefont", "blockquote", "body", "caption", "center",
    "col", "colgroup", "dd", "details", "dialog", "dir", "div", "dl", "dt", "fieldset",
    "figcaption", "figure", "footer", "form", "frame", "frameset", "h1", "h2", "h3", "h4", "h5",
    "h6", "head", "header", "hr", "html", "iframe", "legend", "li", "link", "main", "menu",
    "menuitem", "nav", "noframes", "ol", "optgroup", "option", "p", "param", "search", "section",
    "summary", "table", "tbody", "td", "tfoot", "th", "thead", "title", "tr", "track", "ul"]

/-- The ending of a block that a verbatim tag starts, from the character after the bracket on. -/
def verbatimEnd? (cs : List Char) : Option (List Char) :=
  verbatimTags.findSome? fun name =>
    if (cs.take name.length).map Char.toLower = name.toList then
      match cs.drop name.length with
      | [] => some ("</" ++ name ++ ">").toList
      | c :: _ => if isSpace c || c == '>' then some ("</" ++ name ++ ">").toList else none
    else none

/-- The ending of a block that ends with a given text, from the character after the bracket on. -/
def givenEnd? (cs : List Char) : Option (List Char) :=
  match verbatimEnd? cs with
  | some ending => some ending
  | none =>
    match cs with
    | '!' :: '-' :: '-' :: _ => some ['-', '-', '>']
    | '?' :: _ => some ['?', '>']
    | '!' :: c :: rest =>
      if (Text.dropPrefix? "[CDATA[".toList (c :: rest)).isSome then some [']', ']', '>']
      else if c.isAlpha then some ['>'] else none
    | _ => none

/-- Whether a text starts with a tag that starts a block. -/
def startsBlockTag (cs : List Char) : Bool :=
  let cs := if cs.head? = some '/' then cs.drop 1 else cs
  let name := cs.takeWhile Char.isAlphanum
  let rest := cs.drop name.length
  .ofList (name.map Char.toLower) ∈ blockTags &&
    (rest.isEmpty || rest.head? ∈ [some ' ', some '\t', some '>'] || rest.take 2 == ['/', '>'])

/-- The HTML block that may start even in the middle of a paragraph. -/
def firmHtmlStart? : List Char → Option HtmlStart
  | '<' :: cs =>
    match givenEnd? cs with
    | some ending => some (.through ending)
    | none => if startsBlockTag cs then some .beforeBlank else none
  | _ => none

/-- The HTML block that starts with a line. -/
def htmlStart? (cs : List Char) : Option HtmlStart :=
  match firmHtmlStart? cs with
  | some start => some start
  | none =>
    match cs with
    | '<' :: cs =>
      match tag? cs with
      | some rest => if isBlankText rest then some .beforeBlank else none
      | none => none
    | _ => none

end Gamebook.Markup
