/-!
# JSON values

A JSON value whose objects keep the order of their fields. A document may stop being JSON in the
middle; what was read before that point is kept, and the value that broke off is `torn` with the
reason. Main definitions: `Json`, `Json.Fault`, `Json.fault?`.
-/

namespace Gamebook

/-- Why a text stops being a JSON document, or a document of the relaxed JSON5 format. -/
inductive Json.Fault where
  /-- The text ends where a value is due. -/
  | endOfValue
  /-- The text ends inside a list. -/
  | endOfList
  /-- The text ends inside an object. -/
  | endOfObject
  /-- The text ends inside a string. -/
  | endOfString
  /-- A field name without its colon. -/
  | colon
  /-- A list item without a comma or bracket after it. -/
  | listComma
  /-- A field without a comma or brace after it. -/
  | objectComma
  /-- A misspelt `null`, `true` or `false`. -/
  | ident
  /-- A character that starts no value. -/
  | value
  /-- A backslash that starts no escape. -/
  | escape
  /-- A malformed number. -/
  | number
  /-- A number that is too large. -/
  | range
  /-- A bare control character in a string. -/
  | control
  /-- A field name that is not a string. -/
  | key
  /-- The second half of a surrogate pair without its first half, or the wrong second half. -/
  | loneSurrogate
  /-- The first half of a surrogate pair without an escape after it. -/
  | hexEscape
  /-- A comma before a closing bracket. -/
  | trailingComma
  /-- Characters after the document. -/
  | trailingText
  /-- More than 127 open brackets. -/
  | depth
  /-- A relaxed document that breaks the grammar. -/
  | grammar
  /-- A relaxed integer beyond 64 bits, or one with both a sign and hexadecimal digits. -/
  | relaxedInteger
  /-- A relaxed hexadecimal number beyond 32 bits, or a first surrogate before no such number. -/
  | relaxedHex
  /-- A relaxed number with a sign, hexadecimal digits and an `e` among them. -/
  | relaxedNumber
  /-- A relaxed number that is too large. -/
  | relaxedRange
  /-- A first surrogate without a second one in a relaxed string. -/
  | relaxedMissingTrail
  /-- A first surrogate before another escape in a relaxed string. -/
  | relaxedWrongTrail
  /-- A second surrogate without a first one in a relaxed string. -/
  | relaxedLoneTrail
  deriving DecidableEq, Repr

/-- The wording of a fault. -/
def Json.Fault.message : Json.Fault → String
  | .endOfValue => "EOF while parsing a value"
  | .endOfList => "EOF while parsing a list"
  | .endOfObject => "EOF while parsing an object"
  | .endOfString => "EOF while parsing a string"
  | .colon => "expected \x60:\x60"
  | .listComma => "expected \x60,\x60 or \x60]\x60"
  | .objectComma => "expected \x60,\x60 or \x60\x7d\x60"
  | .ident => "expected ident"
  | .value => "expected value"
  | .escape => "invalid escape"
  | .number => "invalid number"
  | .range => "number out of range"
  | .control => "control character (\\u0000-\\u001F) found while parsing a string"
  | .key => "key must be a string"
  | .loneSurrogate => "lone leading surrogate in hex escape"
  | .hexEscape => "unexpected end of hex escape"
  | .trailingComma => "trailing comma"
  | .trailingText => "trailing characters"
  | .depth => "recursion limit exceeded"
  | .grammar => "<syntax error>"
  | .relaxedInteger => "error parsing integer"
  | .relaxedHex => "error parsing hex"
  | .relaxedNumber => "error parsing number"
  | .relaxedRange => "error parsing number: too large"
  | .relaxedMissingTrail => "missing unicode trail surrogate"
  | .relaxedWrongTrail => "expecting unicode trail surrogate"
  | .relaxedLoneTrail => "unexpected unicode trail surrogate"

/-- A number of a document: an integer of at most 64 bits, or a fraction. -/
inductive Json.Number where
  /-- An integer. -/
  | int (n : Int)
  /-- A fraction, or an integer that is too large. -/
  | fraction (x : Float)
  deriving DecidableEq

/-- The value of a number. -/
def Json.Number.toFloat : Json.Number → Float
  | .int n => Float.ofInt n
  | .fraction x => x

/-- A JSON value. -/
inductive Json where
  /-- The value `null`. -/
  | null
  /-- A truth value. -/
  | bool (b : Bool)
  /-- A number. -/
  | num (n : Json.Number)
  /-- A string. -/
  | str (s : String)
  /-- A list. -/
  | arr (items : List Json)
  /-- An object, with its fields in the order of the document. -/
  | obj (fields : List (String × Json))
  /-- The place where the document breaks off. -/
  | torn (fault : Json.Fault)

namespace Json

mutual

/-- Why a value is torn, if it or a part of it is. -/
def fault? : Json → Option Fault
  | .torn fault => some fault
  | .arr items => itemsFault? items
  | .obj fields => fieldsFault? fields
  | _ => none

/-- Why one of the items is torn. -/
def itemsFault? : List Json → Option Fault
  | [] => none
  | item :: items => item.fault?.or (itemsFault? items)

/-- Why the value of one of the fields is torn. -/
def fieldsFault? : List (String × Json) → Option Fault
  | [] => none
  | (_, value) :: fields => value.fault?.or (fieldsFault? fields)

end

/-- The value of a field of an object. -/
def field? (name : String) : Json → Option Json
  | .obj fields => (fields.find? (·.1 = name)).map (·.2)
  | _ => none

end Json

end Gamebook
