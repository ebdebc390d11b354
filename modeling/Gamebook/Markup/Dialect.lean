import Gamebook.Text.Blank
import Gamebook.Text.Lowercase

/-!
# Dialects

Two ways of using headings: as chapters from the second level on, or as scenes from the third level
on. Main definitions: `Dialect`, `Dialect.startsSection`, `Dialect.read`.
-/

namespace Gamebook

/-- Which headings start sections. -/
inductive Dialect where
  /-- Headings from the second level on; one of the second level is also shown. -/
  | chapter
  /-- Headings from the third level on; one of the second level is shown inside of its section. -/
  | scene
  deriving DecidableEq, Repr

namespace Dialect

/-- Whether a heading of a level starts a section. -/
def startsSection (dialect : Dialect) (level : Nat) : Bool :=
  match dialect with
  | chapter => 2 ≤ level && level ≤ 6
  | scene => 3 ≤ level && level ≤ 6

/-- The name of a dialect. -/
def name : Dialect → String
  | chapter => "chapter"
  | scene => "scene"

/-- The dialect with a name in any case, or what is wrong with the name. -/
def read (text : String) : Except String Dialect :=
  let name := String.ofList (Text.lowercase (Text.trim text.toList))
  if name = "chapter" then .ok chapter
  else if name = "scene" then .ok scene
  else .error ("unknown dialect: " ++ name ++ " (expected chapter or scene)")

end Dialect

end Gamebook
