import Gamebook.Json.Basic

/-!
# Sorted objects

A JSON value with the fields of every object in the order of their names. Main definition:
`Json.sorted`.
-/

namespace Gamebook.Json

/-- Puts a field before the first one with a greater name. -/
def insertField (field : String × Json) : List (String × Json) → List (String × Json)
  | [] => [field]
  | other :: fields =>
    if field.1 < other.1 then field :: other :: fields else other :: insertField field fields

mutual

/-- The value with the fields of all objects in order. -/
def sorted : Json → Json
  | .arr items => .arr (sortedItems items)
  | .obj fields => .obj (sortedFields fields)
  | j => j

/-- The items of a list with the fields of all objects in order. -/
def sortedItems : List Json → List Json
  | [] => []
  | item :: items => item.sorted :: sortedItems items

/-- The fields of an object in order. -/
def sortedFields : List (String × Json) → List (String × Json)
  | [] => []
  | (name, value) :: fields => insertField (name, value.sorted) (sortedFields fields)

end

end Gamebook.Json
