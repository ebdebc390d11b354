import Gamebook.Bookmark
import Gamebook.Play.Screen

/-!
# Sessions

A session is a player's walk through a story. It remembers the section entered last with the state
at that point, as a bookmark, and the screen that it gave. A step that fails leaves the session as
it was. Main definitions: `Session.start`, `Session.choose`, `Session.ofBookmark`.
-/

namespace Gamebook

/-- A player's walk through a story. -/
structure Session where
  /-- The story. -/
  story : Story
  /-- How screens are made. -/
  config : Config
  /-- The generator. -/
  generator : Generator
  /-- Where the player entered last; none before the start. -/
  bookmark : Option Bookmark
  /-- The screen. -/
  screen : Screen

namespace Session

/-- Why a step fails. -/
inductive Fault where
  /-- There is no section to start from. -/
  | emptyStory
  /-- No section has the name. -/
  | sectionNotFound (id : String)
  /-- The screen has no such choice. -/
  | invalidChoice (index available : Nat)
  deriving DecidableEq, Repr

/-- The wording of a fault. -/
def Fault.message : Fault → String
  | .emptyStory => "story has no sections"
  | .sectionNotFound id => "section not found: " ++ id
  | .invalidChoice index available => s!"invalid choice {index}: {available} available"

/-- A session that has not entered any section. -/
def fresh (story : Story) (config : Config) (g : Generator) : Session where
  story := story
  config := config
  generator := g
  bookmark := none
  screen := .blank .empty

/-- Enters a section with a state. -/
def enter (session : Session) (id : String) (state : State) : Except Fault Session :=
  match session.story.section? id with
  | none => .error (.sectionNotFound id)
  | some _ =>
    let (screen, g) := session.story.resolveNext session.config id state session.generator
    .ok { session with generator := g, bookmark := some ⟨id, state⟩, screen := screen }

/-- The section that a player starts from. -/
def startId (session : Session) : (id : Option String) → Except Fault String
  | some id => .ok (.ofList (id.toList.dropWhile (· = '#')))
  | none =>
    match session.story.sections with
    | [] => .error .emptyStory
    | first :: _ => .ok first.id

/-- Enters a section, or the first one, with the empty state. -/
def start (session : Session) (id : Option String) : Except Fault Session := do
  session.enter (← session.startId id) .empty

/-- The choices of the screen. -/
def choices (session : Session) : List Choice :=
  session.screen.choices

/-- Follows a choice of the screen. -/
def choose (session : Session) (index : Nat) : Except Fault Session :=
  match session.choices[index]? with
  | none => .error (.invalidChoice index session.choices.length)
  | some choice => session.enter choice.target session.screen.state

/-- Whether there is no way on. -/
def finished (session : Session) : Bool :=
  session.choices.isEmpty

/-- A session that is where a bookmark says. -/
def ofBookmark (story : Story) (config : Config) (g : Generator) (bookmark : Bookmark) :
    Except Fault Session :=
  (fresh story config g).enter bookmark.sectionId bookmark.state

end Session

end Gamebook
