import Gamebook.Json.Basic
import Gamebook.Number.Written

/-!
# Writing JSON

Two layouts of a value: without any space (`compact`), and with one field or item a line, indented
by two spaces a level (`pretty`). Strings are written raw except for quotes, backslashes and control
characters.
-/

namespace Gamebook.Json

/-- The lower-case hexadecimal digit of a number below 16. -/
def lowerHexDigit (n : Nat) : Char :=
  if n < 10 then Char.ofNat (48 + n) else Char.ofNat (87 + n)

/-- A character inside a JSON string. -/
def escapeChar (c : Char) : List Char :=
  if c = '\x22' then ['\\', '\x22']
  else if c = '\\' then ['\\', '\\']
  else if c = '\x08' then ['\\', 'b']
  else if c = '\x0c' then ['\\', 'f']
  else if c = '\n' then ['\\', 'n']
  else if c = '\r' then ['\\', 'r']
  else if c = '\t' then ['\\', 't']
  else if c.toNat < 32 then
    ['\\', 'u', '0', '0', lowerHexDigit (c.toNat / 16), lowerHexDigit (c.toNat % 16)]
  else [c]

/-- A string with its quotes. -/
def quoted (s : String) : List Char :=
  '\x22' :: s.toList.flatMap escapeChar ++ ['\x22']

/-- A number of a document. -/
def Number.text : Number → List Char
  | .int n => Number.intText n
  | .fraction x => Number.fractionText x

mutual

/-- The value without any space. -/
def compactChars : Json → List Char
  | .null => ['n', 'u', 'l', 'l']
  | .bool true => ['t', 'r', 'u', 'e']
  | .bool false => ['f', 'a', 'l', 's', 'e']
  | .num n => n.text
  | .str s => quoted s
  | .arr items => '[' :: compactItems items
  | .obj fields => '{' :: compactFields fields
  | .torn _ => []

/-- The items of a list and the bracket that closes it. -/
def compactItems : List Json → List Char
  | [] => [']']
  | [item] => compactChars item ++ [']']
  | item :: items => compactChars item ++ ',' :: compactItems items

/-- The fields of an object and the brace that closes it. -/
def compactFields : List (String × Json) → List Char
  | [] => ['}']
  | [(name, value)] => quoted name ++ ':' :: compactChars value ++ ['}']
  | (name, value) :: fields =>
    quoted name ++ ':' :: compactChars value ++ ',' :: compactFields fields

end

/-- The value without any space, as a text. -/
def compact (j : Json) : String :=
  .ofList j.compactChars

/-- A line feed and the indentation of a level. -/
def newLine (level : Nat) : List Char :=
  '\n' :: List.replicate (2 * level) ' '

mutual

/-- The value with one field or item a line, inside of `level` brackets. -/
def prettyChars (level : Nat) : Json → List Char
  | .null => ['n', 'u', 'l', 'l']
  | .bool true => ['t', 'r', 'u', 'e']
  | .bool false => ['f', 'a', 'l', 's', 'e']
  | .num n => n.text
  | .str s => quoted s
  | .arr [] => ['[', ']']
  | .arr items => '[' :: prettyItems (level + 1) items ++ newLine level ++ [']']
  | .obj [] => ['{', '}']
  | .obj fields => '{' :: prettyFields (level + 1) fields ++ newLine level ++ ['}']
  | .torn _ => []

/-- The items of a list, a line each. -/
def prettyItems (level : Nat) : List Json → List Char
  | [] => []
  | [item] => newLine level ++ prettyChars level item
  | item :: items => newLine level ++ prettyChars level item ++ ',' :: prettyItems level items

/-- The fields of an object, a line each. -/
def prettyFields (level : Nat) : List (String × Json) → List Char
  | [] => []
  | [(name, value)] => newLine level ++ quoted name ++ ':' :: ' ' :: prettyChars level value
  | (name, value) :: fields =>
    newLine level ++ quoted name ++ ':' :: ' ' :: prettyChars level value ++
      ',' :: prettyFields level fields

end

/-- The value with one field or item a line, as a text. -/
def pretty (j : Json) : String :=
  .ofList (j.prettyChars 0)

end Gamebook.Json
