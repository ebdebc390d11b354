import Gamebook.Json.Basic
import Gamebook.Number.Read
import Gamebook.Number.Written

/-!
# Scalars

The leaves of a story's state are numbers and texts. Main definitions: `Scalar`, the reading of a
text as a number where it is written as one (`Scalar.coerce`), and the text and JSON value of a leaf.
-/

namespace Gamebook

/-- A leaf of the state: a number or a text. -/
inductive Scalar where
  /-- A number. -/
  | number (x : Float)
  /-- A text. -/
  | text (s : String)
  deriving DecidableEq

namespace Scalar

/-- A text as a leaf: a number if the text is how that number is displayed, and a text otherwise. -/
def coerce (s : String) : Scalar :=
  match Number.read? s.toList with
  | some x => if x.isFinite && Number.display x = s then .number x else .text s
  | none => .text s

/-- The number that a leaf is, or that its text spells between blanks. -/
def asNumber? : Scalar → Option Float
  | .number x => some x
  | .text s => (Number.read? (Text.trim s.toList)).filter Float.isFinite

/-- The text that a leaf is. -/
def asText? : Scalar → Option String
  | .number _ => none
  | .text s => some s

/-- The text of a leaf, as players read it. -/
def display : Scalar → String
  | .number x => Number.display x
  | .text s => s

/-- Whether two leaves are equal, where numbers are compared by value. -/
def agrees : Scalar → Scalar → Bool
  | .number x, .number y => x == y
  | .text s, .text t => s == t
  | _, _ => false

/-- The JSON value of a leaf. -/
def toJson : Scalar → Json
  | .number x =>
    match Number.smallInteger? x with
    | some n => .num (.int n)
    | none => if x.isFinite then .num (.fraction x) else .null
  | .text s => .str s

end Scalar

end Gamebook
