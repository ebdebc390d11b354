import Gamebook.Json.Reader
import Gamebook.Text.Name
import Gamebook.Text.Split

/-!
# Reading relaxed JSON

The JSON5 format: JSON with comments, names without quotes, strings in either quote, commas before
closing brackets and more ways of writing numbers. A text that breaks the grammar has no value at
all; a number or string that the grammar allows and that has no value is torn. Main definitions:
`Relaxed.StringPart`, `Relaxed.numberValue`, `readRelaxed`.
-/

namespace Gamebook.Json.Relaxed

/-- Whether a character ends a line. -/
def isLineEnd (c : Char) : Bool :=
  c == '\n' || c == '\r' || c == '\u2028' || c == '\u2029'

/-- Whether a character may stand between tokens. -/
def isFiller (c : Char) : Bool :=
  isLineEnd c || c == ' ' || c == '\t' || c == '\x0b' || c == '\x0c' || c == '\xa0' ||
    c == '\ufeff' || c == '\u1680' || ('\u2000' ≤ c && c ≤ '\u200a') || c == '\u202f' ||
    c == '\u205f' || c == '\u3000'

/-- Skips white space and comments; each step skips one of them. -/
def skipFillerFrom : (fuel : Nat) → List Char → List Char
  | 0, cs => cs
  | _ + 1, [] => []
  | fuel + 1, c :: cs =>
    if isFiller c then skipFillerFrom fuel cs
    else
      match c, cs with
      | '/', '/' :: rest => skipFillerFrom fuel (rest.dropWhile (!isLineEnd ·))
      | '/', '*' :: rest =>
        match Text.dropThrough? ['*', '/'] rest with
        | some rest => skipFillerFrom fuel rest
        | none => c :: cs
      | _, _ => c :: cs

/-- Skips white space and comments. -/
def skipFiller (cs : List Char) : List Char :=
  skipFillerFrom cs.length cs

/-- A part of a string or name. -/
inductive StringPart where
  /-- A character that stands for itself. -/
  | literal (c : Char)
  /-- The character after a backslash. -/
  | escaped (c : Char)
  /-- The hexadecimal digits of a character. -/
  | code (digits : List Char)
  /-- The four hexadecimal digits of a character or of one half of a surrogate pair. -/
  | unit (digits : List Char)
  deriving DecidableEq, Repr

/-- Takes a number of hexadecimal digits. -/
def takeHex? (size : Nat) (cs : List Char) : Option (List Char × List Char) :=
  let digits := cs.take size
  if digits.length = size ∧ (hexValue? digits).isSome then some (digits, cs.drop size) else none

/-- A part of a string after a backslash, unless a line goes on on the next one. -/
def escapeSequence? : List Char → Option (Option StringPart × List Char)
  | [] => none
  | c :: cs =>
    if c = '0' then some (some (.code ['0']), cs)
    else if c.isDigit then none
    else if c = 'x' then (takeHex? 2 cs).map fun (digits, cs) => (some (.code digits), cs)
    else if c = 'u' then (takeHex? 4 cs).map fun (digits, cs) => (some (.unit digits), cs)
    else if c = '\r' then some (none, if cs.head? = some '\n' then cs.drop 1 else cs)
    else if isLineEnd c then some (none, cs)
    else some (some (.escaped c), cs)

/-- The parts of a string after its opening quote. Each step reads one part. -/
def stringParts? (quote : Char) : (fuel : Nat) → List Char → Option (List StringPart × List Char)
  | 0, _ => none
  | _ + 1, [] => none
  | fuel + 1, c :: cs =>
    if c = quote then some ([], cs)
    else if c = '\\' then do
      let (part, cs) ← escapeSequence? cs
      let (parts, cs) ← stringParts? quote fuel cs
      some (part.toList ++ parts, cs)
    else if isLineEnd c then none
    else do
      let (parts, cs) ← stringParts? quote fuel cs
      some (.literal c :: parts, cs)

/-- The part that goes on with a name, or starts it. -/
def namePart? (first : Bool) : List Char → Option (StringPart × List Char)
  | '\\' :: 'u' :: cs => (takeHex? 4 cs).map fun (digits, cs) => (.unit digits, cs)
  | c :: cs =>
    if Text.isNameStart c || !first && Text.isNamePart c then some (.literal c, cs) else none
  | [] => none

/-- The parts that go on with a name. Each step reads one part. -/
def nameParts : (fuel : Nat) → List Char → List StringPart × List Char
  | 0, cs => ([], cs)
  | fuel + 1, cs =>
    match namePart? false cs with
    | none => ([], cs)
    | some (part, cs) =>
      let (parts, cs) := nameParts fuel cs
      (part :: parts, cs)

/-- The parts of a name. -/
def name? (cs : List Char) : Option (List StringPart × List Char) := do
  let (first, cs) ← namePart? true cs
  let (parts, cs) := nameParts cs.length cs
  some (first :: parts, cs)

/-- The character that a backslash before a character stands for. -/
def escapedChar (c : Char) : Char :=
  if c = 'b' then '\x08'
  else if c = 'f' then '\x0c'
  else if c = 'n' then '\n'
  else if c = 'r' then '\r'
  else if c = 't' then '\t'
  else if c = 'v' then '\x0b'
  else c

/-- The number that a part spells with hexadecimal digits. -/
def StringPart.hex? : StringPart → Option Nat
  | literal c => hexDigitValue? c
  | escaped c => hexDigitValue? c
  | code digits => hexValue? digits
  | unit digits => hexValue? digits

/-- The characters of the parts of a string, after the first half of a surrogate pair if there is
one. -/
def stringChars (lead : Option Nat) : List StringPart → Except Fault (List Char)
  | [] => if lead.isSome then .error .relaxedMissingTrail else .ok []
  | part :: parts =>
    match lead with
    | some n =>
      match part.hex? with
      | none => .error .relaxedHex
      | some m =>
        if isTrailSurrogate m then (stringChars none parts).map (surrogatePair n m :: ·)
        else .error .relaxedWrongTrail
    | none =>
      match part with
      | .literal c => (stringChars none parts).map (c :: ·)
      | .escaped c => (stringChars none parts).map (escapedChar c :: ·)
      | .code digits => (stringChars none parts).map (.ofNat ((hexValue? digits).getD 0) :: ·)
      | .unit digits =>
        let n := (hexValue? digits).getD 0
        if isTrailSurrogate n then .error .relaxedLoneTrail
        else if isLeadSurrogate n then stringChars (some n) parts
        else (stringChars none parts).map (.ofNat n :: ·)

/-- Skips an exponent, if there is one. -/
def skipExponent (cs : List Char) : List Char :=
  match cs with
  | [] => []
  | c :: rest =>
    if c = 'e' ∨ c = 'E' then
      let (_, digits) := Number.splitSign rest
      if (digits.head?.map Char.isDigit).getD false then digits.dropWhile Char.isDigit else cs
    else cs

/-- Skips the digits before the point of a number: a zero has no digits after it. -/
def skipWhole? : List Char → Option (List Char)
  | [] => none
  | c :: cs =>
    if c = '0' then some cs else if c.isDigit then some (cs.dropWhile Char.isDigit) else none

/-- Skips a decimal number. -/
def skipDecimal? (cs : List Char) : Option (List Char) :=
  match skipWhole? cs with
  | some ('.' :: rest) => some (skipExponent (rest.dropWhile Char.isDigit))
  | some rest => some (skipExponent rest)
  | none =>
    match cs with
    | '.' :: c :: rest =>
      if c.isDigit then some (skipExponent (rest.dropWhile Char.isDigit)) else none
    | _ => none

/-- Whether a character is a hexadecimal digit. -/
def isHexDigit (c : Char) : Bool :=
  (hexDigitValue? c).isSome

/-- Skips a number after its sign. -/
def skipUnsigned? (cs : List Char) : Option (List Char) :=
  let hex : Option (List Char) :=
    match cs with
    | '0' :: x :: c :: rest =>
      if (x = 'x' ∨ x = 'X') ∧ isHexDigit c then some (rest.dropWhile isHexDigit) else none
    | _ => none
  hex.orElse fun _ => (skipDecimal? cs).orElse fun _ =>
    (Text.dropPrefix? "Infinity".toList cs).orElse fun _ => Text.dropPrefix? "NaN".toList cs

/-- A number as it is written. -/
def number? (cs : List Char) : Option (List Char × List Char) :=
  let (_, unsigned) := Number.splitSign cs
  (skipUnsigned? unsigned).map fun rest => (cs.take (cs.length - rest.length), rest)

/-- The hexadecimal digits of a number without a sign. -/
def hexDigits? : List Char → Option (List Char)
  | '0' :: x :: c :: digits => if x = 'x' ∨ x = 'X' then some (c :: digits) else none
  | _ => none

/-- The integer that a sign and digits spell, if it has at most 64 bits. -/
def integer? (cs : List Char) : Option Int :=
  let (negative, digits) := Number.splitSign cs
  if digits ≠ [] ∧ digits.all Char.isDigit then
    let n : Int := Number.digitsValue digits
    let n := if negative then -n else n
    if -(Nat.pow 2 63 : Int) ≤ n ∧ n < (Nat.pow 2 63 : Int) then some n else none
  else none

/-- The value of a number as it is written. -/
def numberValue (cs : List Char) : Json :=
  match hexDigits? cs with
  | some digits =>
    match hexValue? digits with
    | some n => if n < Nat.pow 2 32 then .num (.int n) else .torn .relaxedHex
    | none => .torn .relaxedHex
  | none =>
    if cs = "Infinity".toList then .num (.fraction (1.0 / 0.0))
    else if cs = "-Infinity".toList then .num (.fraction (-1.0 / 0.0))
    else if cs = "NaN".toList ∨ cs = "-NaN".toList then .num (.fraction (0.0 / 0.0))
    else if cs.any fun c => c == '.' || c == 'e' || c == 'E' then
      match Number.read? cs with
      | some x => if x.isFinite then .num (.fraction x) else .torn .relaxedRange
      | none => .torn .relaxedNumber
    else
      match integer? cs with
      | some n => .num (.int n)
      | none => .torn .relaxedInteger

/-- The value of the parts of a string. -/
def stringValue (parts : List StringPart) : Json :=
  match stringChars none parts with
  | .ok cs => .str (.ofList cs)
  | .error fault => .torn fault

/-- A field with the parts of its name; a name without value tears the field. -/
def fieldOf (parts : List StringPart) (value : Json) : String × Json :=
  match stringChars none parts with
  | .ok cs => (.ofList cs, value)
  | .error fault => ("", .torn fault)

/-- The parts of the name of a field, with or without quotes. -/
def key? : List Char → Option (List StringPart × List Char)
  | [] => none
  | c :: cs =>
    if c = '\x22' ∨ c = '\x27' then stringParts? c (cs.length + 1) cs else name? (c :: cs)

/-- A value without brackets. -/
def leaf? (cs : List Char) : Option (Json × List Char) :=
  match Text.dropPrefix? "null".toList cs with
  | some rest => some (.null, rest)
  | none =>
    match Text.dropPrefix? "true".toList cs with
    | some rest => some (.bool true, rest)
    | none =>
      match Text.dropPrefix? "false".toList cs with
      | some rest => some (.bool false, rest)
      | none =>
        match cs with
        | '\x22' :: rest =>
          (stringParts? '\x22' (rest.length + 1) rest).map fun (s, rest) => (stringValue s, rest)
        | '\x27' :: rest =>
          (stringParts? '\x27' (rest.length + 1) rest).map fun (s, rest) => (stringValue s, rest)
        | _ => (number? cs).map fun (n, rest) => (numberValue n, rest)

mutual

/-- A value. Each step inside of it takes one unit of fuel. -/
def value? : (fuel : Nat) → List Char → Option (Json × List Char)
  | 0, _ => none
  | fuel + 1, cs =>
    match skipFiller cs with
    | '[' :: rest => (items? fuel rest).map fun (items, rest) => (.arr items, rest)
    | '{' :: rest => (fields? fuel rest).map fun (fields, rest) => (.obj fields, rest)
    | rest => leaf? rest

/-- The items of a list, up to its bracket. -/
def items? : (fuel : Nat) → List Char → Option (List Json × List Char)
  | 0, _ => none
  | fuel + 1, cs =>
    match skipFiller cs with
    | ']' :: rest => some ([], rest)
    | rest => do
      let (item, rest) ← value? fuel rest
      match skipFiller rest with
      | ',' :: rest => (items? fuel rest).map fun (items, rest) => (item :: items, rest)
      | ']' :: rest => some ([item], rest)
      | _ => none

/-- The fields of an object, up to its brace. -/
def fields? : (fuel : Nat) → List Char → Option (List (String × Json) × List Char)
  | 0, _ => none
  | fuel + 1, cs =>
    match skipFiller cs with
    | '}' :: rest => some ([], rest)
    | rest => do
      let (name, rest) ← key? rest
      let rest ← Text.dropPrefix? [':'] (skipFiller rest)
      let (value, rest) ← value? fuel rest
      match skipFiller rest with
      | ',' :: rest =>
        (fields? fuel rest).map fun (fields, rest) => (fieldOf name value :: fields, rest)
      | '}' :: rest => some ([fieldOf name value], rest)
      | _ => none

end

end Gamebook.Json.Relaxed

namespace Gamebook.Json

/-- The value of a relaxed document; a text that breaks the grammar has none. -/
def readRelaxed (cs : List Char) : Option Json := do
  let (value, rest) ← Relaxed.value? (2 * cs.length + 2) cs
  if (Relaxed.skipFiller rest).isEmpty then some value else none

end Gamebook.Json
