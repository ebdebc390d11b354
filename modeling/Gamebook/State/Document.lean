import Gamebook.Json.Decode
import Gamebook.Json.Reader
import Gamebook.Json.Relaxed
import Gamebook.Json.Writer
import Gamebook.State.Basic

/-!
# States as JSON documents

A state is written as a JSON object. It is read from a JSON object in which lists are tables keyed
by position, truth values are texts, and `null` has no reading. Main definitions: `State.toJson`,
`State.ofJson`, `State.read`, `State.readRelaxed`.
-/

namespace Gamebook

/-- The fields that a tree is written as. -/
def Tree.toFields : Tree → List (String × Json)
  | .nil => []
  | .leaf key value rest => (key, value.toJson) :: rest.toFields
  | .table key sub rest => (key, .obj sub.toFields) :: rest.toFields

namespace State

/-- The JSON object of a state. -/
def toJson (state : State) : Json :=
  .obj state.tree.toFields

/-- A state as a compact document. -/
def text (state : State) : String :=
  state.toJson.compact

/-- The JSON value of an entry. -/
def Entry.toJson : Entry → Json
  | .scalar leaf => leaf.toJson
  | .table sub => sub.toJson

mutual

/-- Reads the value of an entry. -/
def entryOf : Json → Except Json.Mismatch Entry
  | .null => .error .noReading
  | .bool b => .ok (.scalar (.text (toString b)))
  | .num n => .ok (.scalar (.number n.toFloat))
  | .str s => .ok (.scalar (.text s))
  | .arr items => (addItems 0 empty items).map .table
  | .obj fields => (addFields empty fields).map .table
  | .torn fault => .error (.broken fault)

/-- Inserts the items of a list under their positions. -/
def addItems (index : Nat) (state : State) : List Json → Except Json.Mismatch State
  | [] => .ok state
  | item :: items => do
    let entry ← entryOf item
    addItems (index + 1) (state.insert (.ofList (Number.natText index)) entry) items

/-- Inserts the fields of an object under their names. -/
def addFields (state : State) : List (String × Json) → Except Json.Mismatch State
  | [] => .ok state
  | (key, value) :: fields => do
    let entry ← entryOf value
    addFields (state.insert key entry) fields

end

/-- Inserts the fields of an object that may break off. -/
def addWhole (state : State) : List (String × Json) → Except Json.Mismatch State
  | [] => .ok state
  | (key, value) :: fields => do
    Json.whole value
    let entry ← entryOf value
    addWhole (state.insert key entry) fields

/-- Reads a state from an object. -/
def ofJson : Json.Decoder State
  | .obj fields => addWhole empty fields
  | j => Json.wrongType j "a map"

end State

/-- Reads the one value of a plain document; what follows the value is looked at last. -/
def Json.decodeText {α : Type} (decode : Decoder α) (text : String) : Except Mismatch α := do
  let (j, trailing) := Json.read text.toList
  let a ← decode j
  match trailing with
  | some fault => .error (.broken fault)
  | none => .ok a

/-- Reads a state from the text of a plain document. -/
def State.read (text : String) : Except Json.Mismatch State :=
  Json.decodeText ofJson text

/-- Reads a state from the text of a relaxed document. -/
def State.readRelaxed (text : List Char) : Except Json.Mismatch State :=
  match Json.readRelaxed text with
  | some j => ofJson j
  | none => .error (.broken .grammar)

end Gamebook
