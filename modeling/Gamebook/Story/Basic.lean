import Gamebook.State.Basic
import Gamebook.Text.Slug

/-!
# Stories

A story has a title, a description, settings and sections, and every piece of content is a part. A
condition holds two branches of further parts. Main definitions: `Part`, `Section`, `Story`, and
the questions asked of them: links, images, actions and conditions at any depth.
-/

namespace Gamebook

/-- How a paragraph is set apart in the source. -/
inductive Quoting where
  /-- As a block quote. -/
  | blockquote
  /-- As a list item. -/
  | citation
  deriving DecidableEq, Repr

/-- A choice that leads to another section. -/
structure Link where
  /-- The label. -/
  text : String
  /-- The section, usually behind a `#`. -/
  target : String
  /-- A key that selects the choice. -/
  key : Option String
  deriving DecidableEq, Repr

/-- An illustration. -/
structure Image where
  /-- The text in place of the image. -/
  text : String
  /-- Where the image is. -/
  url : Option String
  /-- A longer description. -/
  description : Option String
  deriving DecidableEq, Repr

/-- What a condition asks, and what is known about it. -/
structure Condition where
  /-- The expression as it is written. -/
  expression : String
  /-- How the condition was decided. -/
  audit : Option String
  /-- The marker as it is written, if it is no proper one. -/
  source : Option String
  /-- What is wrong with the marker. -/
  error : Option String
  deriving DecidableEq, Repr

/-- The changes that an action makes, and what is known about it. -/
structure Action where
  /-- The keys to set, with their expressions. -/
  state : State
  /-- How the action went. -/
  audit : Option String
  /-- The block as it is written, if it is no proper one. -/
  source : Option String
  /-- What is wrong with the block. -/
  error : Option String

/-- One piece of content. -/
inductive Part where
  /-- A heading inside of a section. -/
  | header (text : String)
  /-- A choice. -/
  | link (link : Link)
  /-- An illustration. -/
  | image (image : Image)
  /-- A paragraph. -/
  | paragraph (text : String) (quoting : Option Quoting)
  /-- A remark of the author's. -/
  | comment (text : String)
  /-- A way on that takes no choice. -/
  | navigation (text target : String)
  /-- A condition with its branches. -/
  | condition (condition : Condition) (whenTrue whenFalse : List Part)
  /-- A change of the state. -/
  | action (action : Action)

/-- A named place of a story. -/
structure Section where
  /-- The name that links lead to. -/
  id : String
  /-- The heading. -/
  heading : String
  /-- The content in order. -/
  parts : List Part

/-- A story. -/
structure Story where
  /-- The title. -/
  title : String
  /-- The content before the first section. -/
  description : List Part
  /-- The values that every section starts with. -/
  settings : Action
  /-- The sections in order. -/
  sections : List Section
  /-- The illustrations of the sections. -/
  images : List Image

/-- An action that sets the keys of a state. -/
def Action.setting (state : State) : Action where
  state := state
  audit := none
  source := none
  error := none

/-- Whether an action has no keys, no source and no error. -/
def Action.isEmpty (action : Action) : Bool :=
  action.state.isEmpty && action.source.isNone && action.error.isNone

/-- Whether two actions are equal up to the order of their keys. -/
def Action.agrees (action other : Action) : Bool :=
  action.state.agrees other.state && action.audit == other.audit &&
    action.source == other.source && action.error == other.error

namespace Part

/-- Whether a part leads to another section. -/
def isLink : Part → Bool
  | link _ => true
  | navigation _ _ => true
  | _ => false

/-- The section that a target names: the target without one `#` before it. -/
def targetName (target : String) : String :=
  match target.toList with
  | '#' :: name => .ofList name
  | _ => target

/-- The section that a part leads to. -/
def linkTarget? : Part → Option String
  | link l => some (targetName l.target)
  | navigation _ target => some (targetName target)
  | _ => none

/-- The label of a part that leads to another section. -/
def linkText? : Part → Option String
  | link l => some l.text
  | navigation text _ => some text
  | _ => none

/-- Whether a part is an action. -/
def isAction : Part → Bool
  | action _ => true
  | _ => false

/-- Whether a part is a condition. -/
def isCondition : Part → Bool
  | condition .. => true
  | _ => false

mutual

/-- Whether a part, or one in its branches, has a property. -/
def anywhere (p : Part → Bool) : Part → Bool
  | condition c whenTrue whenFalse =>
    p (condition c whenTrue whenFalse) || anyOf p whenTrue || anyOf p whenFalse
  | part => p part

/-- Whether one of the parts, or one in their branches, has a property. -/
def anyOf (p : Part → Bool) : List Part → Bool
  | [] => false
  | part :: parts => part.anywhere p || anyOf p parts

end

mutual

/-- The images of a part, in its branches included. -/
def images : Part → List Image
  | image i => [i]
  | condition _ whenTrue whenFalse => imagesOf whenTrue ++ imagesOf whenFalse
  | _ => []

/-- The images of parts in order. -/
def imagesOf : List Part → List Image
  | [] => []
  | part :: parts => part.images ++ imagesOf parts

end

mutual

/-- Whether two parts are equal up to the order of keys. -/
def agrees : Part → Part → Bool
  | header text, header text' => text == text'
  | link l, link l' => l == l'
  | image i, image i' => i == i'
  | paragraph text quoting, paragraph text' quoting' => text == text' && quoting == quoting'
  | comment text, comment text' => text == text'
  | navigation text target, navigation text' target' => text == text' && target == target'
  | condition c whenTrue whenFalse, condition c' whenTrue' whenFalse' =>
    c == c' && agreesAll whenTrue whenTrue' && agreesAll whenFalse whenFalse'
  | action a, action a' => a.agrees a'
  | _, _ => false

/-- Whether two lists of parts are equal up to the order of keys. -/
def agreesAll : List Part → List Part → Bool
  | [], [] => true
  | part :: parts, part' :: parts' => part.agrees part' && agreesAll parts parts'
  | _, _ => false

end

end Part

namespace Section

/-- An empty section whose name is made from its heading. -/
def ofHeading (heading : String) : Section where
  id := Text.slugify heading
  heading := heading
  parts := []

/-- The parts that lead to other sections. -/
def links (s : Section) : List Part :=
  s.parts.filter Part.isLink

/-- Whether a part at any depth is an action. -/
def hasAction (s : Section) : Bool :=
  Part.anyOf Part.isAction s.parts

/-- Whether a part is a condition. -/
def hasCondition (s : Section) : Bool :=
  Part.anyOf Part.isCondition s.parts

/-- Whether two sections are equal up to the order of keys. -/
def agrees (s other : Section) : Bool :=
  s.id == other.id && s.heading == other.heading && Part.agreesAll s.parts other.parts

end Section

namespace Story

/-- The first section with a name. -/
def section? (story : Story) (id : String) : Option Section :=
  story.sections.find? (·.id = id)

/-- The images of all sections in order. -/
def sectionImages (sections : List Section) : List Image :=
  sections.flatMap fun s => Part.imagesOf s.parts

/-- The story with its images listed anew. -/
def indexImages (story : Story) : Story :=
  { story with images := sectionImages story.sections }

/-- Whether two lists of sections are equal up to the order of keys. -/
def sectionsAgree : List Section → List Section → Bool
  | [], [] => true
  | s :: rest, s' :: rest' => s.agrees s' && sectionsAgree rest rest'
  | _, _ => false

/-- Whether two stories are equal up to the order of keys. -/
def agrees (story other : Story) : Bool :=
  story.title == other.title && Part.agreesAll story.description other.description &&
    story.settings.agrees other.settings && sectionsAgree story.sections other.sections &&
    story.images == other.images

end Story

end Gamebook
