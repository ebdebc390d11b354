import Gamebook.Json.Basic
import Gamebook.Number.Written

/-!
# Taking JSON values apart

How typed values are read from JSON values: fields are looked at in the order of the document, and
the first thing that does not fit is the error. A torn value is an error when it is reached. Main
definitions: `Json.Mismatch`, `Json.Record`, and readers for strings, optional values and lists.
-/

namespace Gamebook.Json

/-- Why a JSON value is not what is expected. -/
inductive Mismatch where
  /-- The document breaks off. -/
  | broken (fault : Fault)
  /-- Another type of value is expected. -/
  | type (found : Json) (expected : String)
  /-- A required field is missing. -/
  | missing (field : String)
  /-- A field occurs twice. -/
  | duplicate (field : String)
  /-- A name that is not one of the expected names. -/
  | variant (found : String) (expected : List String)
  /-- A value that has the right type and cannot be meant. -/
  | value (found expected : String)
  /-- A list with too few or too many items for a record. -/
  | length (found : Nat) (expected : String)
  /-- A value that no reading of a state entry accepts. -/
  | noReading

/-- How values without a text of their own are called in messages. -/
structure Naming where
  /-- The name of `null`. -/
  unit : String
  /-- The text of a fraction. -/
  fraction : Float → String

/-- The naming of plain documents. -/
def Naming.plain : Naming where
  unit := "null"
  fraction := fun x => .ofList (Number.fractionText x)

/-- The text of a fraction, with a point. -/
def pointed (x : Float) : String :=
  if x.isFinite && !(Number.display x).contains '.' then Number.display x ++ ".0"
  else Number.display x

/-- The naming of relaxed documents. -/
def Naming.relaxed : Naming where
  unit := "unit value"
  fraction := pointed

/-- A character of a string in a message. -/
def messageChar (c : Char) : List Char :=
  if c = '\x00' then ['\\', '0']
  else if c = '\t' then ['\\', 't']
  else if c = '\n' then ['\\', 'n']
  else if c = '\r' then ['\\', 'r']
  else if c = '\x22' ∨ c = '\\' then ['\\', c]
  else if c.toNat < 32 ∨ c.toNat = 127 then
    ['\\', 'u', '{'] ++ Nat.toDigits 16 c.toNat ++ ['}']
  else [c]

/-- What a value is called in a message. -/
def describe (naming : Naming) : Json → String
  | .null => naming.unit
  | .bool b => s!"boolean \x60{b}\x60"
  | .num (.int n) => "integer \x60" ++ .ofList (Number.intText n) ++ "\x60"
  | .num (.fraction x) => "floating point \x60" ++ naming.fraction x ++ "\x60"
  | .str s => "string \x22" ++ .ofList (s.toList.flatMap messageChar) ++ "\x22"
  | .arr _ => "sequence"
  | .obj _ => "map"
  | .torn fault => fault.message

/-- A list of quoted names, as in `one of a, b, c`. -/
def oneOf (names : List String) : String :=
  match names.map fun name => "\x60" ++ name ++ "\x60" with
  | [] => "there are no variants"
  | [a] => "expected " ++ a
  | [a, b] => "expected " ++ a ++ " or " ++ b
  | names => "expected one of " ++ ", ".intercalate names

/-- The wording of a mismatch. -/
def Mismatch.message (naming : Naming) : Mismatch → String
  | .broken fault => fault.message
  | .type found expected => s!"invalid type: {found.describe naming}, expected {expected}"
  | .missing field => s!"missing field \x60{field}\x60"
  | .duplicate field => s!"duplicate field \x60{field}\x60"
  | .variant found expected => s!"unknown variant \x60{found}\x60, {oneOf expected}"
  | .value found expected => s!"invalid value: {found}, expected {expected}"
  | .length found expected => s!"invalid length {found}, expected {expected}"
  | .noReading => "data did not match any variant of untagged enum RawValue"

/-- A reader of typed values. -/
abbrev Decoder (α : Type) := Json → Except Mismatch α

/-- The mismatch of a value that has the wrong type. -/
def wrongType {α : Type} (found : Json) (expected : String) : Except Mismatch α :=
  match found with
  | .torn fault => .error (.broken fault)
  | found => .error (.type found expected)

/-- Reads any value that is not torn. -/
def whole (j : Json) : Except Mismatch Unit :=
  match j.fault? with
  | some fault => .error (.broken fault)
  | none => .ok ()

/-- Reads a string. -/
def asString : Decoder String
  | .str s => .ok s
  | j => wrongType j "a string"

/-- Reads a value or `null`. -/
def optional {α : Type} (decode : Decoder α) : Decoder (Option α)
  | .null => .ok none
  | j => (decode j).map some

/-- A record under way: its fields, and whether they were given by position. -/
structure Record where
  /-- The fields in the order of the document. -/
  fields : List (String × Json)
  /-- How many items there are, if the fields were given by position. -/
  positional : Option Nat
  /-- How the record is called in messages. -/
  name : String

/-- Reads a record with its fields by name, or by position in the given order. -/
def asRecord (name : String) (order : List String) : Decoder Record
  | .obj fields => .ok ⟨fields, none, name⟩
  | .arr items =>
    let extra := if order.length < items.length then [("", Json.torn .trailingText)] else []
    .ok ⟨order.zip items ++ extra, some items.length, name⟩
  | j => wrongType j s!"struct {name}"

/-- Puts what has been read into a field that is still empty. -/
def put {α : Type} (slot : Option α) (field : String) (value : Except Mismatch α) :
    Except Mismatch (Option α) :=
  match slot with
  | some _ => .error (.duplicate field)
  | none => value.map some

/-- Reads a value into a field that is still empty. -/
def fill {α : Type} (slot : Option α) (field : String) (decode : Decoder α) (j : Json) :
    Except Mismatch (Option α) :=
  put slot field (decode j)

/-- The value of a required field, the `index`th of `count` ones. -/
def Record.require {α : Type} (record : Record) (field : String) (index count : Nat)
    (slot : Option α) : Except Mismatch α :=
  match slot, record.positional with
  | some a, _ => .ok a
  | none, none => .error (.missing field)
  | none, some _ =>
    let noun := if count = 1 then "element" else "elements"
    .error (.length index s!"struct {record.name} with {count} {noun}")

end Gamebook.Json
