import Gamebook.Command.Arguments
import Gamebook.Command.Basic
import Gamebook.Command.Display
import Gamebook.Play.Session

/-!
# Playing at a terminal

A player sees a screen with numbered choices and answers with a line: a number, a word for the
bookmark or a word for the end. Main definitions: `Playing.session`, `openingText`, `answer`,
`playOn`.
-/

namespace Gamebook

open Command

/-- The generator of a seed, or one of chance if there is none. -/
def generatorOf (seed : Option Nat) (chance : Generator) : Generator :=
  match seed with
  | some n => .ofSeed (.ofNat n)
  | none => chance

/-- How screens are made. -/
def Playing.config (settings : Playing) : Config :=
  let made : Config := { revisits := if settings.rejectRevisits then .rejected else .allowed }
  made.withMaxDepth settings.maxDepth

/-- The session that a player starts with. -/
def Playing.session (settings : Playing) (story : Story) (chance : Generator) :
    Except String Session :=
  let generator := generatorOf settings.seed chance
  match settings.bookmark with
  | some text =>
    match Bookmark.read text with
    | .error fault => .error fault.message
    | .ok bookmark =>
      (Session.ofBookmark story settings.config generator bookmark).mapError Session.Fault.message
  | none =>
    ((Session.fresh story settings.config generator).start settings.target).mapError
      Session.Fault.message

namespace Command

/-- The screen of a session with its choices, or the end. -/
def screenText (session : Session) : String :=
  displayParts session.screen.parts ++
    if session.finished then "  The End.\n" else displayChoices session.choices

/-- What a player sees first. -/
def openingText (session : Session) : String :=
  let title := if session.story.title = "" then "" else displayLine session.story.title
  title ++ displayLine "Type a choice number, 'b' for a bookmark, 'q' to quit." ++
    screenText session

/-- The sign that asks for a line. -/
def promptText : String :=
  "> "

/-- What is said to a player before the next line. -/
def remark (text : String) : String :=
  text ++ "\n\n"

/-- Whether a line is one of some words, in any case. -/
def isWord (words : List String) (line : List Char) : Bool :=
  words.contains (.ofList (line.map Char.toLower))

/-- The position of the choice that a line asks for. -/
def choiceIndex? (line : List Char) : Option Nat :=
  match number? (.ofList line) with
  | some (n + 1) => some n
  | _ => none

/-- What is said to a line that takes a choice, and the session after it. -/
def takeChoice (index : Nat) (session : Session) : String × Session :=
  match session.choose index with
  | .ok next => (screenText next, next)
  | .error (.invalidChoice _ available) =>
    (remark ("choose a number from 1 to " ++ decimal available), session)
  | .error fault => (remark fault.message, session)

/-- What is said to a line, and the session after it unless the game is over. -/
def answer (line : String) (session : Session) : String × Option Session :=
  let words := Text.trim line.toList
  if words.isEmpty then ("", some session)
  else if isWord ["q", "quit"] words then ("", none)
  else if isWord ["b", "bookmark"] words then
    match session.bookmark with
    | some bookmark => (displayLine bookmark.text, some session)
    | none => ("", some session)
  else
    match choiceIndex? words with
    | none => (remark ("unknown command '" ++ .ofList words ++ "'"), some session)
    | some index =>
      let (text, next) := takeChoice index session
      (text, if next.finished then none else some next)

/-- What is said to lines until the game is over or there are no more lines. -/
def playOn (session : Session) : List String → String
  | [] => promptText
  | line :: lines =>
    let (text, next) := answer line session
    promptText ++ text ++
      match next with
      | some session => playOn session lines
      | none => ""

/-- A whole game. -/
def playText (session : Session) (lines : List String) : String :=
  openingText session ++ if session.finished then "" else playOn session lines

end Command

end Gamebook
