import Gamebook.Number.Read
import Gamebook.Text.NamedCharacters
import Gamebook.Text.Punctuation

/-!
# Escapes

In marked-up text a backslash takes the meaning from a sign, and a reference such as `&amp;` or
`&#65;` stands for characters. Main definitions: `characterReference?`, `unescape`.
-/

namespace Gamebook.Markup

/-- Whether a character is a hexadecimal digit. -/
def isHexDigit (c : Char) : Bool :=
  c.isDigit || ('a' ≤ c && c ≤ 'f') || ('A' ≤ c && c ≤ 'F')

/-- The value of a hexadecimal digit. -/
def hexDigitOf (c : Char) : Nat :=
  if c.isDigit then c.toNat - 48 else if 'a' ≤ c then c.toNat - 87 else c.toNat - 55

/-- The character with a code point, or the replacement character. -/
def characterOf (code : Nat) : Char :=
  if h : code.isValidChar ∧ code ≠ 0 then Char.ofNatAux code h.1 else '\ufffd'

/-- The character of a numeric reference and the size of the reference, from its first digit on. -/
def numericReference? (isDigit : Char → Bool) (base limit : Nat) (value : Char → Nat)
    (cs : List Char) : Option (Char × Nat) :=
  let digits := (cs.takeWhile isDigit).take limit
  match digits, cs.drop digits.length with
  | _ :: _, ';' :: _ =>
    some (characterOf (digits.foldl (fun n c => n * base + value c) 0), digits.length + 1)
  | _, _ => none

/-- The characters of the reference that a text starts with, and how long the reference is. -/
def characterReference? : List Char → Option (List Char × Nat)
  | '&' :: '#' :: c :: cs =>
    if c = 'x' ∨ c = 'X' then
      (numericReference? isHexDigit 16 6 hexDigitOf cs).map fun (d, n) => ([d], n + 3)
    else
      (numericReference? Char.isDigit 10 7 Number.digitValue (c :: cs)).map fun (d, n) => ([d], n + 2)
  | '&' :: cs =>
    let name := cs.takeWhile Char.isAlphanum
    match cs.drop name.length with
    | ';' :: _ => (Text.namedCharacter? (.ofList name)).map fun ds => (ds, name.length + 2)
    | _ => none
  | _ => none

/-- Whether a text starts with a sign that a backslash before it takes the meaning from. -/
def startsEscapable (cs : List Char) : Bool :=
  cs.head?.any Text.isAsciiPunctuation

/-- The text without its escapes, where the first `taken` characters are dropped. -/
def unescapeFrom : (taken : Nat) → List Char → List Char
  | _, [] => []
  | taken + 1, _ :: cs => unescapeFrom taken cs
  | 0, c :: cs =>
    if c = '\\' ∧ startsEscapable cs then cs.take 1 ++ unescapeFrom 1 cs
    else if c = '\r' then unescapeFrom 0 cs
    else
      match characterReference? (c :: cs) with
      | some (ds, n) => ds ++ unescapeFrom (n - 1) cs
      | none => c :: unescapeFrom 0 cs

/-- The text that a text with escapes stands for. -/
def unescape (cs : List Char) : List Char :=
  unescapeFrom 0 cs

end Gamebook.Markup
