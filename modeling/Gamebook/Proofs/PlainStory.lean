import Gamebook.Markup.Printer

/-!
# Plain stories

The stories that are read back from the document that is written of them: their texts are lower-case
words, their ids and targets are names, and their actions carry a state and nothing else. Main
definition: `Story.isPlain`.
-/

namespace Gamebook

namespace Text

/-- Whether a text has lower-case letters and digits and nothing else, and is not empty. -/
def isName (cs : List Char) : Bool :=
  !cs.isEmpty && cs.all fun c => c.isLower || c.isDigit

/-- Whether a text has lower-case letters and spaces and nothing else, with letters at its ends. -/
def isProse (cs : List Char) : Bool :=
  cs.head?.any Char.isLower && cs.getLast?.any Char.isLower && cs.all fun c => c.isLower || c == ' '

/-- Whether a text is a name that may stand behind a `#`. -/
def isTarget (cs : List Char) : Bool :=
  match cs with
  | '#' :: name => isName name
  | name => isName name

/-- Whether a text is a name in braces that is compared with one. -/
def isComparison (cs : List Char) : Bool :=
  ((dropPrefix? ['\x7b'] cs).bind (dropSuffix? "\x7d > 1".toList)).any isName

/-- Whether no character of a text ends a line only where relaxed documents are read. -/
def isUnseparated (cs : List Char) : Bool :=
  cs.all fun c => c != '\u2028' && c != '\u2029'

end Text

/-- Whether a leaf is a text or a small integer that is written and read as the same number. -/
def Scalar.isPlain : Scalar → Bool
  | .text s => Text.isUnseparated s.toList
  | .number x =>
    match Number.smallInteger? x with
    | some n => n.natAbs < 9000000000000000 && (Json.Number.int n).toFloat = x
    | none => false

/-- Whether all keys and leaves of a tree are plain. -/
def Tree.isPlain : Tree → Bool
  | .nil => true
  | .leaf key value rest => Text.isUnseparated key.toList && value.isPlain && rest.isPlain
  | .table key sub rest => Text.isUnseparated key.toList && sub.isPlain && rest.isPlain

/-- Whether an action carries a plain state and nothing else. -/
def Action.isPlain (action : Action) : Bool :=
  action.state.tree.isPlain && action.audit.isNone && action.source.isNone && action.error.isNone

/-- Whether a condition is a comparison and carries nothing else. -/
def Condition.isPlain (condition : Condition) : Bool :=
  Text.isComparison condition.expression.toList && condition.audit.isNone &&
    condition.source.isNone && condition.error.isNone

/-- Whether an image has plain texts. -/
def Image.isPlain (image : Image) : Bool :=
  Text.isProse image.text.toList && image.url.all (fun url => Text.isName url.toList) &&
    image.description.all fun text => Text.isProse text.toList

namespace Part

/-- Whether a part is plain and neither a header nor a condition. -/
def isSimple : Part → Bool
  | header _ => false
  | link l => Text.isProse l.text.toList && Text.isTarget l.target.toList && l.key.isNone
  | image i => i.isPlain
  | paragraph text _ => Text.isProse text.toList
  | comment text => Text.isProse text.toList
  | navigation text target => Text.isProse text.toList && Text.isTarget target.toList
  | condition .. => false
  | action a => a.isPlain

/-- Whether a part is plain: scenes may have headers, and the branches of conditions are simple. -/
def isPlain (dialect : Dialect) : Part → Bool
  | header text => dialect = .scene && Text.isProse text.toList
  | condition c whenTrue whenFalse =>
    c.isPlain && whenTrue.all isSimple && whenFalse.all isSimple
  | part => part.isSimple

end Part

/-- Whether a section is plain; a chapter may repeat its heading as its first part. -/
def Section.isPlain (dialect : Dialect) (s : Section) : Bool :=
  Text.isName s.id.toList && Text.isProse s.heading.toList &&
    ((s.shownParts? dialect).getD s.parts).all (·.isPlain dialect)

/-- Whether a story is plain; what the description sets is taken for the settings of the story. -/
def Story.isPlain (dialect : Dialect) (story : Story) : Bool :=
  (story.title.isEmpty || Text.isProse story.title.toList) &&
    story.description.all (·.isPlain dialect) && story.settings.isPlain &&
    (!story.settings.isEmpty || !story.description.any Part.isAction) &&
    story.sections.all (·.isPlain dialect) && story.images = sectionImages story.sections

end Gamebook
