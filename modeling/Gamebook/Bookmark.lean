import Gamebook.State.Document
import Gamebook.Text.Base64
import Gamebook.Text.Utf8

/-!
# Bookmarks

A bookmark says where a player is and with which state: `#cave?state=…`, where the state is Base64
of its JSON document. Main definitions: `Bookmark`, `Bookmark.text`, `Bookmark.read`, and
`State.payload` with its inverse `State.ofPayload`.
-/

namespace Gamebook

/-- A section and the state that the player had on reaching it. -/
structure Bookmark where
  /-- The section. -/
  sectionId : String
  /-- The state. -/
  state : State

/-- Why a text is no bookmark. -/
inductive Bookmark.Fault where
  /-- The state is no Base64 text. -/
  | encoding (fault : Text.Base64.Fault)
  /-- The decoded state is no UTF-8 text. -/
  | text (fault : Text.Utf8Fault)
  /-- The decoded text is no document of a state. -/
  | document (mismatch : Json.Mismatch)
  /-- No section is named. -/
  | noSection (text : String)

/-- The wording of a fault. -/
def Bookmark.Fault.message : Fault → String
  | .encoding fault => "invalid state encoding: " ++ fault.message
  | .text fault => "state payload is not UTF-8: " ++ fault.message
  | .document mismatch => "invalid state document: " ++ mismatch.message .plain
  | .noSection written => "invalid bookmark: \x22" ++ written ++ "\x22"

/-- The ASCII text that a byte sequence spells. -/
def asciiText (bytes : List UInt8) : List Char :=
  bytes.map fun b => Char.ofNat b.toNat

/-- A state as Base64 of its document. -/
def State.payload (state : State) : String :=
  .ofList (asciiText (Text.Base64.encode (Text.utf8 state.toJson.compactChars)))

/-- What precedes a state in a bookmark. -/
def stateKey : List Char :=
  "state=".toList

/-- A state as it stands in a bookmark. -/
def State.query (state : State) : String :=
  .ofList (stateKey ++ state.payload.toList)

/-- The state of a payload, with or without the key before it; no payload is the empty state. -/
def State.ofPayload (text : String) : Except Bookmark.Fault State :=
  let text := Text.trim text.toList
  let payload := (Text.dropPrefix? stateKey text).getD text
  if payload = [] then .ok .empty
  else
    match Text.Base64.decode (Text.utf8 payload) with
    | .error fault => .error (.encoding fault)
    | .ok bytes =>
      match Text.decodeUtf8 bytes with
      | .error fault => .error (.text fault)
      | .ok document =>
        match State.read document with
        | .error mismatch => .error (.document mismatch)
        | .ok state => .ok state

namespace Bookmark

/-- A bookmark as a text. -/
def text (bookmark : Bookmark) : String :=
  .ofList ('#' :: bookmark.sectionId.toList ++ '?' :: bookmark.state.query.toList)

/-- The bookmark that a text is. -/
def read (text : String) : Except Fault Bookmark :=
  let text := Text.trim text.toList
  let rest := (Text.dropPrefix? ['#'] text).getD text
  let (sectionId, query) := (Text.cutAtFirst? '?' rest).getD (rest, [])
  if sectionId = [] then .error (.noSection (.ofList text))
  else (State.ofPayload (.ofList query)).map fun state => ⟨.ofList sectionId, state⟩

end Bookmark

end Gamebook
