import Gamebook.Play.Passage

/-!
# Screens

A screen shows a section, and the sections after it as long as there is only one way on. Main
definitions: `Screen`, `Story.follow`, `Story.resolveNext`, `choicesOf`.
-/

namespace Gamebook

/-- What happens when the only way on leads back to a section of the same screen. -/
inductive Revisits where
  /-- The way is followed until the depth is used up. -/
  | allowed
  /-- The way is not followed. -/
  | rejected
  deriving DecidableEq, Repr

/-- How screens are made. -/
structure Config where
  /-- How many sections a screen may show. -/
  maxDepth : Nat := 10
  /-- What happens on the way back. -/
  revisits : Revisits := .allowed
  deriving DecidableEq, Repr

/-- The configuration with another depth, at least one. -/
def Config.withMaxDepth (config : Config) (depth : Nat) : Config :=
  { config with maxDepth := max depth 1 }

/-- What a player sees. -/
structure Screen where
  /-- The section asked for, if there is one. -/
  origin : Option Section
  /-- The parts of all sections shown, without the ways that were followed. -/
  parts : List Part
  /-- The state after the last section. -/
  state : State
  /-- The text for a narrator. -/
  narration : String

/-- The screen that shows nothing. -/
def Screen.blank (state : State) : Screen where
  origin := none
  parts := []
  state := state
  narration := ""

/-- The screen of one section. -/
def Screen.ofPassage (s : Section) (passage : Passage) : Screen where
  origin := some s
  parts := passage.parts
  state := passage.state
  narration := passage.narration

/-- The target of the only way on among some parts. -/
def onlyTarget? (parts : List Part) : Option String :=
  match parts.filter Part.isLink with
  | [part] => part.linkTarget?
  | _ => none

/-- The parts without the ways on. -/
def withoutLinks (parts : List Part) : List Part :=
  parts.filter (!·.isLink)

namespace Story

/-- The screen of a section, where `depth` more sections may be shown and some are shown already. -/
def follow (story : Story) (revisits : Revisits) :
    (depth : Nat) → (visited : List String) → (id : String) → State → Generator → Screen × Generator
  | 0, _, _, state, g => (.blank state, g)
  | depth + 1, visited, id, state, g =>
    match story.section? id with
    | none => (.blank state, g)
    | some s =>
      let (passage, g) := s.resolve state story.settings.state g
      match onlyTarget? passage.parts with
      | none => (.ofPassage s passage, g)
      | some target =>
        if revisits = .rejected ∧ target ∈ s.id :: visited then (.ofPassage s passage, g)
        else
          let (next, g) := story.follow revisits depth (s.id :: visited) target passage.state g
          let parts := withoutLinks passage.parts ++ next.parts
          (⟨some s, parts, next.state, narration parts⟩, g)

/-- The screen of a section. -/
def resolveNext (story : Story) (config : Config) (id : String) (state : State) (g : Generator) :
    Screen × Generator :=
  story.follow config.revisits config.maxDepth [] id state g

end Story

/-- A way on that a player may choose. -/
structure Choice where
  /-- The label. -/
  text : String
  /-- The section. -/
  target : String
  deriving DecidableEq, Repr

/-- The choice that a part is. -/
def Part.choice? (part : Part) : Option Choice := do
  return ⟨← part.linkText?, ← part.linkTarget?⟩

/-- The choices among some parts. -/
def choicesOf (parts : List Part) : List Choice :=
  parts.filterMap Part.choice?

/-- The choices of a screen. -/
def Screen.choices (screen : Screen) : List Choice :=
  choicesOf screen.parts

end Gamebook
