import Gamebook.State.Document
import Gamebook.Story.Basic

/-!
# Stories as JSON documents

Every record is an object; a part has its kind in the field `type`, and the branches of a condition
are the fields `true` and `false`. What is absent is left out. Main definitions: `Story.toJson`,
`Story.ofJson`, `Part.toJson`, `Part.ofJson`.
-/

namespace Gamebook

/-- The name of a way of quoting. -/
def Quoting.name : Quoting → String
  | .blockquote => "blockquote"
  | .citation => "citation"

/-- A field, if there is a text for it. -/
def textField (name : String) : Option String → List (String × Json)
  | none => []
  | some text => [(name, .str text)]

/-- The fields of a link. -/
def Link.toFields (l : Link) : List (String × Json) :=
  [("text", .str l.text), ("target", .str l.target)] ++ textField "key" l.key

/-- The fields of an image. -/
def Image.toFields (i : Image) : List (String × Json) :=
  ("text", .str i.text) :: textField "url" i.url ++ textField "description" i.description

/-- The fields of an action. -/
def Action.toFields (a : Action) : List (String × Json) :=
  ("state", a.state.toJson) :: textField "text" a.audit ++ textField "markdown" a.source ++
    textField "error" a.error

namespace Part

/-- The name of the kind of a part. -/
def kindName : Part → String
  | header _ => "header"
  | link _ => "link"
  | image _ => "image"
  | paragraph .. => "paragraph"
  | comment _ => "comment"
  | navigation .. => "navigation"
  | condition .. => "condition"
  | action _ => "action"

mutual

/-- The JSON value of a part. -/
def toJson (part : Part) : Json :=
  .obj (("type", .str part.kindName) :: match part with
    | header text => [("text", .str text)]
    | link l => l.toFields
    | image i => i.toFields
    | paragraph text quoting => ("text", .str text) :: textField "variant" (quoting.map Quoting.name)
    | comment text => [("text", .str text)]
    | navigation text target => [("text", .str text), ("target", .str target)]
    | condition c whenTrue whenFalse =>
      [("condition", .str c.expression), ("true", .arr (toJsonAll whenTrue)),
        ("false", .arr (toJsonAll whenFalse))] ++ textField "text" c.audit ++
        textField "markdown" c.source ++ textField "error" c.error
    | action a => a.toFields)

/-- The JSON values of parts. -/
def toJsonAll : List Part → List Json
  | [] => []
  | part :: parts => part.toJson :: toJsonAll parts

end

end Part

/-- The JSON value of a section. -/
def Section.toJson (s : Section) : Json :=
  .obj [("id", .str s.id), ("heading", .str s.heading), ("parts", .arr (Part.toJsonAll s.parts))]

/-- The JSON value of a story. -/
def Story.toJson (story : Story) : Json :=
  .obj [("title", .str story.title), ("description", .arr (Part.toJsonAll story.description)),
    ("settings", .obj story.settings.toFields), ("sections", .arr (story.sections.map Section.toJson)),
    ("images", .arr (story.images.map fun i => .obj i.toFields))]

namespace Json

/-- Reads the fields of a record one after the other into slots. -/
def fillAll {σ : Type} (step : σ → String → Json → Except Mismatch σ) :
    σ → List (String × Json) → Except Mismatch σ
  | slots, [] => .ok slots
  | slots, (name, j) :: fields => do
    fillAll step (← step slots name j) fields

/-- Reads a list of values. -/
def asList {α : Type} (decode : Decoder α) : Decoder (List α)
  | .arr items => items.mapM decode
  | j => wrongType j "a sequence"

/-- Skips a field that is not known. -/
def skip {σ : Type} (slots : σ) (j : Json) : Except Mismatch σ := do
  whole j
  return slots

/-- Reads one of some names, given as a string or as a single field without a value. -/
def asName (names : List String) : Decoder String
  | .str s => if s ∈ names then .ok s else .error (.variant s names)
  | .obj [(s, .null)] => if s ∈ names then .ok s else .error (.variant s names)
  | j => wrongType j "string or map"

end Json

open Json in
/-- Reads a way of quoting. -/
def Quoting.ofJson (j : Json) : Except Mismatch Quoting := do
  let name ← asName ["blockquote", "citation"] j
  return if name = "blockquote" then .blockquote else .citation

/-- The fields of a link that have been read. -/
structure Link.Slots where
  /-- The label. -/
  text : Option String := none
  /-- The section. -/
  target : Option String := none
  /-- The key. -/
  key : Option (Option String) := none

open Json in
/-- Reads a field of a link. -/
def Link.Slots.step (s : Slots) (name : String) (j : Json) : Except Mismatch Slots :=
  match name with
  | "text" => return { s with text := ← fill s.text name asString j }
  | "target" => return { s with target := ← fill s.target name asString j }
  | "key" => return { s with key := ← fill s.key name (optional asString) j }
  | _ => skip s j

open Json in
/-- Reads a link. -/
def Link.ofRecord (record : Record) : Except Mismatch Link := do
  let s ← fillAll Slots.step {} record.fields
  return ⟨← record.require "text" 0 3 s.text, ← record.require "target" 1 3 s.target, s.key.join⟩

/-- The fields of an image that have been read. -/
structure Image.Slots where
  /-- The text in place of the image. -/
  text : Option String := none
  /-- Where the image is. -/
  url : Option (Option String) := none
  /-- The longer description. -/
  description : Option (Option String) := none

open Json in
/-- Reads a field of an image. -/
def Image.Slots.step (s : Slots) (name : String) (j : Json) : Except Mismatch Slots :=
  match name with
  | "text" => return { s with text := ← fill s.text name asString j }
  | "url" => return { s with url := ← fill s.url name (optional asString) j }
  | "description" =>
    return { s with description := ← fill s.description name (optional asString) j }
  | _ => skip s j

/-- The fields of an image in order. -/
def Image.order : List String :=
  ["text", "url", "description"]

open Json in
/-- Reads an image. -/
def Image.ofRecord (record : Record) : Except Mismatch Image := do
  let s ← fillAll Slots.step {} record.fields
  return ⟨← record.require "text" 0 3 s.text, s.url.join, s.description.join⟩

open Json in
/-- Reads an image. -/
def Image.ofJson (j : Json) : Except Mismatch Image := do
  Image.ofRecord (← asRecord "Image" Image.order j)

/-- The fields of a record that consists of texts. -/
structure Texts where
  /-- The text. -/
  text : Option String := none
  /-- The section that is led to. -/
  target : Option String := none
  /-- The way of quoting. -/
  quoting : Option (Option Quoting) := none

open Json in
/-- Reads a field of a record that knows some fields. -/
def Texts.step (known : List String) (s : Texts) (name : String) (j : Json) :
    Except Mismatch Texts :=
  if name ∈ known then
    match name with
    | "text" => return { s with text := ← fill s.text name asString j }
    | "target" => return { s with target := ← fill s.target name asString j }
    | "variant" => return { s with quoting := ← fill s.quoting name (optional Quoting.ofJson) j }
    | _ => skip s j
  else skip s j

/-- The fields of an action that have been read. -/
structure Action.Slots where
  /-- The keys. -/
  state : Option State := none
  /-- How the action went. -/
  audit : Option (Option String) := none
  /-- The source. -/
  source : Option (Option String) := none
  /-- What is wrong. -/
  error : Option (Option String) := none

open Json in
/-- Reads a field of an action. -/
def Action.Slots.step (s : Slots) (name : String) (j : Json) : Except Mismatch Slots :=
  match name with
  | "state" => return { s with state := ← fill s.state name State.ofJson j }
  | "text" => return { s with audit := ← fill s.audit name (optional asString) j }
  | "markdown" => return { s with source := ← fill s.source name (optional asString) j }
  | "error" => return { s with error := ← fill s.error name (optional asString) j }
  | _ => skip s j

/-- The fields of an action in order. -/
def Action.order : List String :=
  ["state", "text", "markdown", "error"]

open Json in
/-- Reads an action. -/
def Action.ofRecord (record : Record) : Except Mismatch Action := do
  let s ← fillAll Slots.step {} record.fields
  return ⟨s.state.getD .empty, s.audit.join, s.source.join, s.error.join⟩

open Json in
/-- Reads an action. -/
def Action.ofJson (j : Json) : Except Mismatch Action := do
  Action.ofRecord (← asRecord "Action" Action.order j)

/-- The fields of a condition that have been read. -/
structure Condition.Slots where
  /-- The expression. -/
  expression : Option String := none
  /-- The first branch. -/
  whenTrue : Option (List Part) := none
  /-- The second branch. -/
  whenFalse : Option (List Part) := none
  /-- How the condition was decided. -/
  audit : Option (Option String) := none
  /-- The source. -/
  source : Option (Option String) := none
  /-- What is wrong. -/
  error : Option (Option String) := none

/-- The fields of a condition in order. -/
def Condition.order : List String :=
  ["condition", "true", "false", "text", "markdown", "error"]

open Json in
/-- Reads a field of a condition, where a branch is no list. -/
def Condition.Slots.step (s : Slots) (name : String) (j : Json) : Except Mismatch Slots :=
  match name with
  | "condition" => return { s with expression := ← fill s.expression name asString j }
  | "true" => return { s with whenTrue := ← put s.whenTrue name (wrongType j "a sequence") }
  | "false" => return { s with whenFalse := ← put s.whenFalse name (wrongType j "a sequence") }
  | "text" => return { s with audit := ← fill s.audit name (optional asString) j }
  | "markdown" => return { s with source := ← fill s.source name (optional asString) j }
  | "error" => return { s with error := ← fill s.error name (optional asString) j }
  | _ => skip s j

open Json in
/-- The condition whose fields have been read. -/
def Condition.Slots.toPart (s : Slots) (positional : Option Nat) : Except Mismatch Part := do
  let record : Record := ⟨[], positional, "Condition"⟩
  let expression ← record.require "condition" 0 6 s.expression
  return .condition ⟨expression, s.audit.join, s.source.join, s.error.join⟩
    (s.whenTrue.getD []) (s.whenFalse.getD [])

namespace Part

open Json

/-- The names of the kinds of parts in order. -/
def kindNames : List String :=
  ["header", "link", "image", "paragraph", "comment", "navigation", "condition", "action"]

/-- Reads the kind of a part. Inside of another part the position of its name may stand for it. -/
def kindOf (nested : Bool) : Decoder String
  | .str s => if s ∈ kindNames then .ok s else .error (.variant s kindNames)
  | .num (.int n) =>
    if nested ∧ 0 ≤ n then
      match kindNames[n.toNat]? with
      | some name => .ok name
      | none => .error (.value s!"integer \x60{n}\x60" "variant index 0 <= i < 8")
    else wrongType (.num (.int n)) "variant identifier"
  | j => wrongType j "variant identifier"

/-- Looks through the fields of a part for its kind. -/
def findKind (nested : Bool) (found : Option String) :
    List (String × Json) → Except Mismatch String
  | [] =>
    match found with
    | some kind => .ok kind
    | none => .error (.missing "type")
  | (name, j) :: fields =>
    if name = "type" then
      match found with
      | some _ => .error (.duplicate "type")
      | none => do findKind nested (some (← kindOf nested j)) fields
    else do
      whole j
      findKind nested found fields

/-- A record of a part's fields, or the mismatch of a part that has too many items. -/
def recordOf (name : String) (order : List String) (items : List Json) : Except Mismatch Record :=
  if order.length < items.length then
    let noun := if order.length = 1 then "element" else "elements"
    .error (.length items.length s!"{order.length} {noun} in sequence")
  else .ok ⟨order.zip items, some items.length, name⟩

/-- Reads a part that is no condition from its fields. -/
def plainOf (kind : String) (record : List String → String → Except Mismatch Record) :
    Except Mismatch Part := do
  match kind with
  | "link" => return .link (← Link.ofRecord (← record ["text", "target", "key"] "Link"))
  | "image" => return .image (← Image.ofRecord (← record Image.order "Image"))
  | "action" => return .action (← Action.ofRecord (← record Action.order "Action"))
  | "paragraph" =>
    let record ← record ["text", "variant"] "Paragraph"
    let s ← fillAll (Texts.step ["text", "variant"]) {} record.fields
    return .paragraph (← record.require "text" 0 2 s.text) s.quoting.join
  | "navigation" =>
    let record ← record ["text", "target"] "Navigation"
    let s ← fillAll (Texts.step ["text", "target"]) {} record.fields
    return .navigation (← record.require "text" 0 2 s.text) (← record.require "target" 1 2 s.target)
  | "comment" =>
    let record ← record ["text"] "Comment"
    let s ← fillAll (Texts.step ["text"]) {} record.fields
    return .comment (← record.require "text" 0 1 s.text)
  | _ =>
    let record ← record ["text"] "Header"
    let s ← fillAll (Texts.step ["text"]) {} record.fields
    return .header (← record.require "text" 0 1 s.text)

mutual

/-- Reads a part, which may stand inside of another part. -/
def decode (nested : Bool) : Json → Except Mismatch Part
  | .obj fields => do
    let kind ← findKind nested none fields
    if kind = "condition" then (← conditionFields {} fields).toPart none
    else
      plainOf kind fun _ name => .ok ⟨fields.filter (·.1 ≠ "type"), none, name⟩
  | .arr (tag :: items) => do
    let kind ← kindOf nested tag
    items.forM whole
    if kind = "condition" then
      let _ ← recordOf "Condition" Condition.order items
      (← conditionItems {} Condition.order items).toPart (some items.length)
    else plainOf kind fun order name => recordOf name order items
  | .arr [] => .error (.missing "type")
  | j => wrongType j "internally tagged enum Part"

/-- Reads the items of a branch. -/
def decodeItems : List Json → Except Mismatch (List Part)
  | [] => .ok []
  | j :: items => do
    let part ← decode true j
    return part :: (← decodeItems items)

/-- Reads the fields of a condition. -/
def conditionFields (s : Condition.Slots) :
    List (String × Json) → Except Mismatch Condition.Slots
  | [] => .ok s
  | (name, j) :: fields => do
    conditionFields (← conditionField s name j) fields

/-- Reads the items of a condition by their position. -/
def conditionItems (s : Condition.Slots) :
    (order : List String) → List Json → Except Mismatch Condition.Slots
  | name :: order, j :: items => do
    conditionItems (← conditionField s name j) order items
  | _, _ => .ok s

/-- Reads a field of a condition. -/
def conditionField (s : Condition.Slots) (name : String) :
    Json → Except Mismatch Condition.Slots
  | .arr items =>
    match name with
    | "true" => return { s with whenTrue := ← put s.whenTrue name (decodeItems items) }
    | "false" => return { s with whenFalse := ← put s.whenFalse name (decodeItems items) }
    | _ => s.step name (.arr items)
  | j => s.step name j

end

/-- Reads a part. -/
def ofJson : Decoder Part :=
  decode false

end Part

/-- The fields of a section that have been read. -/
structure Section.Slots where
  /-- The name. -/
  id : Option String := none
  /-- The heading. -/
  heading : Option String := none
  /-- The content. -/
  parts : Option (List Part) := none

open Json in
/-- Reads a field of a section. -/
def Section.Slots.step (s : Slots) (name : String) (j : Json) : Except Mismatch Slots :=
  match name with
  | "id" => return { s with id := ← fill s.id name asString j }
  | "heading" => return { s with heading := ← fill s.heading name asString j }
  | "parts" => return { s with parts := ← fill s.parts name (asList Part.ofJson) j }
  | _ => skip s j

open Json in
/-- Reads a section. -/
def Section.ofJson (j : Json) : Except Mismatch Section := do
  let record ← asRecord "Section" ["id", "heading", "parts"] j
  let s ← fillAll Slots.step {} record.fields
  return ⟨← record.require "id" 0 3 s.id, ← record.require "heading" 1 3 s.heading,
    s.parts.getD []⟩

/-- The fields of a story that have been read. -/
structure Story.Slots where
  /-- The title. -/
  title : Option String := none
  /-- The description. -/
  description : Option (List Part) := none
  /-- The settings. -/
  settings : Option Action := none
  /-- The sections. -/
  sections : Option (List Section) := none
  /-- The illustrations. -/
  images : Option (List Image) := none

open Json in
/-- Reads a field of a story. -/
def Story.Slots.step (s : Slots) (name : String) (j : Json) : Except Mismatch Slots :=
  match name with
  | "title" => return { s with title := ← fill s.title name asString j }
  | "description" =>
    return { s with description := ← fill s.description name (asList Part.ofJson) j }
  | "settings" => return { s with settings := ← fill s.settings name Action.ofJson j }
  | "sections" => return { s with sections := ← fill s.sections name (asList Section.ofJson) j }
  | "images" => return { s with images := ← fill s.images name (asList Image.ofJson) j }
  | _ => skip s j

open Json in
/-- Reads a story. -/
def Story.ofJson (j : Json) : Except Mismatch Story := do
  let record ← asRecord "Story" ["title", "description", "settings", "sections", "images"] j
  let s ← fillAll Slots.step {} record.fields
  let title ← record.require "title" 0 5 s.title
  return ⟨title, s.description.getD [], s.settings.getD (.setting .empty), s.sections.getD [],
    s.images.getD []⟩

/-- Reads a story from the text of a document. -/
def Story.read (text : String) : Except Json.Mismatch Story :=
  Json.decodeText Story.ofJson text

end Gamebook
