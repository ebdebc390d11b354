import Gamebook.Json.Basic
import Gamebook.Number.Read
import Gamebook.Text.Utf8

/-!
# Reading JSON

A document is read from left to right (`read`). Where it stops being JSON the value under way is
torn and reading ends, so that everything before that point can still be looked at. At most 127
brackets may be open at once.
-/

namespace Gamebook.Json

/-- The text without the spaces, tabs and line ends at its start. -/
def skipBlanks (cs : List Char) : List Char :=
  cs.dropWhile fun c => c = ' ' || c = '\n' || c = '\t' || c = '\r'

/-- The value of a hexadecimal digit of either case. -/
def hexDigitValue? (c : Char) : Option Nat :=
  if '0' ≤ c ∧ c ≤ '9' then some (c.toNat - 48)
  else if 'a' ≤ c ∧ c ≤ 'f' then some (c.toNat - 87)
  else if 'A' ≤ c ∧ c ≤ 'F' then some (c.toNat - 55)
  else none

/-- The number that hexadecimal digits spell. -/
def hexValue? (cs : List Char) : Option Nat :=
  cs.foldl (fun n? c => do return (← n?) * 16 + (← hexDigitValue? c)) (some 0)

/-- The four hexadecimal digits of an escape. -/
def hexEscape (cs : List Char) : Except Fault (Nat × List Char) :=
  let digits := cs.take 4
  match hexValue? digits with
  | some n => if digits.length = 4 then .ok (n, cs.drop 4) else .error .endOfString
  | none => if Text.byteSize digits < 4 then .error .endOfString else .error .escape

/-- Whether a number is the first half of a surrogate pair. -/
def isLeadSurrogate (n : Nat) : Bool :=
  0xD800 ≤ n && n ≤ 0xDBFF

/-- Whether a number is the second half of a surrogate pair. -/
def isTrailSurrogate (n : Nat) : Bool :=
  0xDC00 ≤ n && n ≤ 0xDFFF

/-- The character of a surrogate pair. -/
def surrogatePair (lead trail : Nat) : Char :=
  .ofNat ((lead - 0xD800) * 0x400 + (trail - 0xDC00) + 0x10000)

/-- The character of an escape, after its `\u`. -/
def unicodeEscape (cs : List Char) : Except Fault (Char × List Char) := do
  let (n, rest) ← hexEscape cs
  if isTrailSurrogate n then .error .loneSurrogate
  else if isLeadSurrogate n then
    match rest with
    | [] => .error .endOfString
    | '\\' :: [] => .error .endOfString
    | '\\' :: 'u' :: rest =>
      let (m, rest) ← hexEscape rest
      if isTrailSurrogate m then .ok (surrogatePair n m, rest) else .error .loneSurrogate
    | _ => .error .hexEscape
  else .ok (.ofNat n, rest)

/-- The character of an escape, after its backslash. -/
def escape : List Char → Except Fault (Char × List Char)
  | [] => .error .endOfString
  | c :: rest =>
    if c = '\x22' ∨ c = '\\' ∨ c = '/' then .ok (c, rest)
    else if c = 'b' then .ok ('\x08', rest)
    else if c = 'f' then .ok ('\x0c', rest)
    else if c = 'n' then .ok ('\n', rest)
    else if c = 'r' then .ok ('\r', rest)
    else if c = 't' then .ok ('\t', rest)
    else if c = 'u' then unicodeEscape rest
    else .error .escape

/-- The characters of a string, after its opening quote. A string takes fewer steps than `fuel`. -/
def stringChars : (fuel : Nat) → List Char → Except Fault (List Char × List Char)
  | 0, _ => .error .endOfString
  | _ + 1, [] => .error .endOfString
  | fuel + 1, c :: rest =>
    if c = '\x22' then .ok ([], rest)
    else if c = '\\' then do
      let (d, rest) ← escape rest
      let (ds, rest) ← stringChars fuel rest
      .ok (d :: ds, rest)
    else if c.toNat < 32 then .error .control
    else do
      let (ds, rest) ← stringChars fuel rest
      .ok (c :: ds, rest)

/-- A string, after its opening quote. -/
def string (cs : List Char) : Except Fault (String × List Char) := do
  let (ds, rest) ← stringChars (cs.length + 1) cs
  .ok (.ofList ds, rest)

/-- The rest of a name such as `null`. -/
def ident : (name : List Char) → List Char → Except Fault (List Char)
  | [], cs => .ok cs
  | _ :: _, [] => .error .endOfValue
  | c :: name, d :: cs => if c = d then ident name cs else .error .ident

/-- The greatest integer that the digits of a number are kept for. -/
def maxSignificand : Nat := Nat.pow 2 64 - 1

/--
The digits that continue a number: the significand, how many digits were added to it, and how many
more there were. Once a digit does not fit, the digits after it are dropped.
-/
def moreDigits (significand : Nat) : List Char → Nat × Nat × Nat × List Char
  | [] => (significand, 0, 0, [])
  | c :: cs =>
    if c.isDigit then
      let next := significand * 10 + Number.digitValue c
      if next ≤ maxSignificand then
        let (s, taken, dropped, rest) := moreDigits next cs
        (s, taken + 1, dropped, rest)
      else (significand, 0, ((c :: cs).takeWhile Char.isDigit).length, cs.dropWhile Char.isDigit)
    else (significand, 0, 0, c :: cs)

/-- The greatest power of ten that scales a number in one step. -/
def maxPower : Nat := 308

/--
The number `significand · 10 ^ exponent`, scaled step by step: each step multiplies or divides by a
power of ten up to `maxPower` and rounds. More than a few divisions leave zero.
-/
def scaled (significand : Nat) (exponent : Int) : Except Fault Float :=
  let x := Float.ofNat significand
  if 0 ≤ exponent then
    if exponent ≤ maxPower then
      let y := x * Float.ofScientific 1 false exponent.toNat
      if y.isFinite then .ok y else .error .range
    else if significand = 0 then .ok x
    else .error .range
  else .ok (down 3 x exponent.natAbs)
where
  /-- Divides by a power of ten, by at most `maxPower` at a time. -/
  down : Nat → Float → Nat → Float
    | 0, x, _ => x * 0.0
    | steps + 1, x, n =>
      if n ≤ maxPower then x / Float.ofScientific 1 false n
      else down steps (x / Float.ofScientific 1 false maxPower) (n - maxPower)

/-- The greatest exponent that is counted. -/
def maxExponent : Nat := Nat.pow 2 31 - 1

/-- The exponent of a number after its `e`, and the scaled number. -/
def exponentPart (significand : Nat) (point : Int) (cs : List Char) :
    Except Fault (Float × List Char) :=
  let (negative, digits) := Number.splitSign cs
  match digits with
  | [] => .error .endOfValue
  | c :: _ =>
    if c.isDigit then
      let rest := digits.dropWhile Char.isDigit
      let e := Number.digitsValue (digits.takeWhile Char.isDigit)
      if maxExponent < e then
        if significand ≠ 0 ∧ !negative then .error .range else .ok (0.0, rest)
      else (scaled significand (if negative then point - e else point + e)).map (·, rest)
    else .error .number

/-- The exponent of a number, if an `e` stands there. -/
def exponentOrEnd (significand : Nat) (point : Int) : List Char → Except Fault (Float × List Char)
  | [] => (scaled significand point).map (·, [])
  | c :: cs =>
    if c = 'e' ∨ c = 'E' then exponentPart significand point cs
    else (scaled significand point).map (·, c :: cs)

/-- The digits of a number after its point. -/
def fractionPart (significand : Nat) (point : Int) (cs : List Char) :
    Except Fault (Float × List Char) :=
  match cs with
  | [] => .error .endOfValue
  | c :: _ =>
    if c.isDigit then
      let (s, taken, _, rest) := moreDigits significand cs
      exponentOrEnd s (point - taken) rest
    else .error .number

/-- A number with digits read and something other than a digit next. -/
def afterDigits (negative : Bool) (significand dropped : Nat) (cs : List Char) :
    Except Fault (Number × List Char) :=
  let sign := Number.signed negative
  match cs with
  | '.' :: rest => (fractionPart significand dropped rest).map fun (x, rest) => (.fraction (sign x), rest)
  | c :: rest =>
    if c = 'e' ∨ c = 'E' then
      (exponentPart significand dropped rest).map fun (x, rest) => (.fraction (sign x), rest)
    else whole sign
  | [] => whole sign
where
  /-- A number without a point and an exponent. -/
  whole (sign : Float → Float) : Except Fault (Number × List Char) :=
    if 0 < dropped then (scaled significand dropped).map fun x => (.fraction (sign x), cs)
    else if negative then
      if significand = 0 ∨ Nat.pow 2 63 < significand then
        .ok (.fraction (-(Float.ofNat significand)), cs)
      else .ok (.int (-significand), cs)
    else .ok (.int significand, cs)

/-- A number, after its sign. -/
def number (negative : Bool) : List Char → Except Fault (Number × List Char)
  | [] => .error .endOfValue
  | c :: cs =>
    if c = '0' then
      match cs with
      | d :: _ => if d.isDigit then .error .number else afterDigits negative 0 0 cs
      | [] => afterDigits negative 0 0 cs
    else if c.isDigit then
      let (s, _, dropped, rest) := moreDigits (Number.digitValue c) cs
      afterDigits negative s dropped rest
    else .error .number

/-- What was read of a value, and the text after it unless the value is torn. -/
abbrev Reading (α : Type) := α × Option (List Char)

/-- A value made from a piece of text. -/
def ofPiece {α : Type} (make : α → Json) : Except Fault (α × List Char) → Reading Json
  | .ok (a, rest) => (make a, some rest)
  | .error fault => (.torn fault, none)

/-- A name such as `null` and the value that it stands for. -/
def ofIdent (j : Json) (name cs : List Char) : Reading Json :=
  ofPiece (fun () => j) ((ident name cs).map ((), ·))

mutual

/-- A value. Each step inside of it takes one unit of fuel; `depth` more brackets may be opened. -/
def value (fuel depth : Nat) (cs : List Char) : Reading Json :=
  match fuel with
  | 0 => (.torn .endOfValue, none)
  | fuel + 1 =>
    match skipBlanks cs with
    | [] => (.torn .endOfValue, none)
    | c :: cs =>
      if c = 'n' then ofIdent .null ['u', 'l', 'l'] cs
      else if c = 't' then ofIdent (.bool true) ['r', 'u', 'e'] cs
      else if c = 'f' then ofIdent (.bool false) ['a', 'l', 's', 'e'] cs
      else if c = '-' then ofPiece .num (number true cs)
      else if c.isDigit then ofPiece .num (number false (c :: cs))
      else if c = '\x22' then ofPiece .str (string cs)
      else if c = '[' then
        match depth with
        | 0 => (.torn .depth, none)
        | depth + 1 =>
          let (items, rest) := items fuel depth true cs
          (.arr items, rest)
      else if c = '{' then
        match depth with
        | 0 => (.torn .depth, none)
        | depth + 1 =>
          let (fields, rest) := fields fuel depth true cs
          (.obj fields, rest)
      else (.torn .value, none)

/-- The items of a list from the first one or from the end of an item on, up to the bracket. -/
def items (fuel depth : Nat) (first : Bool) (cs : List Char) : Reading (List Json) :=
  match fuel with
  | 0 => ([.torn .endOfList], none)
  | fuel + 1 =>
    match skipBlanks cs with
    | [] => ([.torn .endOfList], none)
    | c :: rest =>
      if c = ']' then ([], some rest)
      else if first then item fuel depth (c :: rest)
      else if c = ',' then
        match skipBlanks rest with
        | [] => ([.torn .endOfValue], none)
        | d :: rest => if d = ']' then ([.torn .trailingComma], none) else item fuel depth (d :: rest)
      else ([.torn .listComma], none)

/-- An item of a list and the items after it. -/
def item (fuel depth : Nat) (cs : List Char) : Reading (List Json) :=
  match fuel with
  | 0 => ([.torn .endOfValue], none)
  | fuel + 1 =>
    match value fuel depth cs with
    | (j, none) => ([j], none)
    | (j, some rest) =>
      let (js, rest) := items fuel depth false rest
      (j :: js, rest)

/-- The fields of an object from the first one or from the end of a field on, up to the brace. -/
def fields (fuel depth : Nat) (first : Bool) (cs : List Char) : Reading (List (String × Json)) :=
  match fuel with
  | 0 => ([("", .torn .endOfObject)], none)
  | fuel + 1 =>
    match skipBlanks cs with
    | [] => ([("", .torn .endOfObject)], none)
    | c :: rest =>
      if c = '}' then ([], some rest)
      else if first then
        if c = '\x22' then field fuel depth rest else ([("", .torn .key)], none)
      else if c = ',' then
        match skipBlanks rest with
        | [] => ([("", .torn .endOfValue)], none)
        | d :: rest =>
          if d = '\x22' then field fuel depth rest
          else if d = '}' then ([("", .torn .trailingComma)], none)
          else ([("", .torn .key)], none)
      else ([("", .torn .objectComma)], none)

/-- A field, after the opening quote of its name, and the fields after it. -/
def field (fuel depth : Nat) (cs : List Char) : Reading (List (String × Json)) :=
  match fuel with
  | 0 => ([("", .torn .endOfString)], none)
  | fuel + 1 =>
    match string cs with
    | .error fault => ([("", .torn fault)], none)
    | .ok (name, rest) =>
      match skipBlanks rest with
      | [] => ([(name, .torn .endOfObject)], none)
      | c :: rest =>
        if c = ':' then
          match value fuel depth rest with
          | (j, none) => ([(name, j)], none)
          | (j, some rest) =>
            let (js, rest) := fields fuel depth false rest
            ((name, j) :: js, rest)
        else ([(name, .torn .colon)], none)

end

/-- How many brackets may be open at once. -/
def maxDepth : Nat := 127

/-- The value that a text starts with, and why the text does not end after it, if it does not. -/
def read (cs : List Char) : Json × Option Fault :=
  match value (3 * cs.length + 3) maxDepth cs with
  | (j, none) => (j, none)
  | (j, some rest) => (j, if skipBlanks rest = [] then none else some .trailingText)

end Gamebook.Json
