import Gamebook.Dice.Keystream

/-!
# Drawing dice

A generator is a key and how many words of its keystream are drawn. A die takes one word, and a
second one where the first leaves a bias. Main definitions: `Generator`, `Generator.die`,
`Generator.dice`, `Group`.
-/

namespace Gamebook

/-- A keystream and how much of it is drawn. -/
structure Generator where
  /-- The key. -/
  key : Keystream.Key
  /-- How many words are drawn. -/
  drawn : Nat
  deriving DecidableEq, Repr

namespace Generator

/-- The generator of a seed. -/
def ofSeed (seed : UInt64) : Generator :=
  ⟨Keystream.keyOfSeed seed, 0⟩

/-- The next word of the keystream. -/
def next (g : Generator) : Nat × Generator :=
  ((Keystream.word g.key g.drawn).toNat, { g with drawn := g.drawn + 1 })

/-- A face of a die with the given number of sides. -/
def die (sides : Nat) (g : Generator) : Nat × Generator :=
  let (word, g) := g.next
  let high := word * sides / Nat.pow 2 32
  let low := word * sides % Nat.pow 2 32
  if Nat.pow 2 32 - sides < low then
    let (word, g) := g.next
    let carry := if Nat.pow 2 32 ≤ low + word * sides / Nat.pow 2 32 then 1 else 0
    (1 + high + carry, g)
  else (1 + high, g)

/-- The faces of some dice with the same number of sides. -/
def dice (sides : Nat) : (count : Nat) → Generator → List Nat × Generator
  | 0, g => ([], g)
  | count + 1, g =>
    let (face, g) := g.die sides
    let (faces, g) := dice sides count g
    (face :: faces, g)

end Generator

/-- Dice that are rolled together. -/
structure Group where
  /-- How many sides each die has. -/
  sides : Nat
  /-- The faces in order. -/
  faces : List Nat
  deriving DecidableEq, Repr

namespace Group

/-- The sum of the faces. -/
def total (group : Group) : Nat :=
  group.faces.foldr (· + ·) 0

/-- The faces in brackets. -/
def text (group : Group) : String :=
  "[" ++ ", ".intercalate (group.faces.map toString) ++ "]"

/-- The faces and their sum. -/
def display (group : Group) : String :=
  s!"{group.text} = {group.total}"

/-- How a die is written; a die with a hundred sides has a name of its own. -/
def dieText (sides : Nat) : String :=
  if sides = 100 then "d%" else s!"d{sides}"

end Group

end Gamebook
