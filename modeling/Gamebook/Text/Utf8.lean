/-!
# UTF-8

The bytes of a text (`utf8`), the text of a byte sequence (`decodeUtf8`), and where a sequence stops
being UTF-8 (`Utf8Fault`). Decoding the bytes of a text gives the text (`decodeUtf8_utf8`).
-/

namespace Gamebook.Text

/-- The UTF-8 bytes of a text. -/
def utf8 (cs : List Char) : List UInt8 :=
  cs.flatMap String.utf8EncodeChar

/-- How many bytes a character takes. -/
def charSize (c : Char) : Nat :=
  c.utf8Size

/-- How many bytes a text takes. -/
def byteSize : List Char → Nat
  | [] => 0
  | c :: cs => charSize c + byteSize cs

/-- A text takes up as many bytes as its parts. -/
theorem byteSize_append {cs ds : List Char} : byteSize (cs ++ ds) = byteSize cs + byteSize ds := by
  induction cs with
  | nil => exact (Nat.zero_add _).symm
  | cons c cs ih => rw [List.cons_append, byteSize, ih, byteSize, Nat.add_assoc]

/-- A text that is not empty takes up some bytes. -/
theorem byteSize_pos {cs : List Char} (h : cs ≠ []) : 0 < byteSize cs := by
  cases cs with
  | nil => exact (h rfl).elim
  | cons c cs => exact Nat.add_pos_left c.utf8Size_pos _

/-- Where and how a byte sequence fails to be UTF-8. -/
structure Utf8Fault where
  /-- The index of the first byte of the offending sequence. -/
  index : Nat
  /-- How many bytes the sequence has, or none if the input ends inside it. -/
  length : Option Nat
  deriving DecidableEq, Repr

/-- The wording of a fault. -/
def Utf8Fault.message (fault : Utf8Fault) : String :=
  match fault.length with
  | some n => s!"invalid utf-8 sequence of {n} bytes from index {fault.index}"
  | none => s!"incomplete utf-8 byte sequence from index {fault.index}"

/-- The ranges of the bytes that must follow a first byte, or none if it starts no character. -/
def continuations? (b : UInt8) : Option (List (UInt8 × UInt8)) :=
  if b < 0x80 then some []
  else if b < 0xC2 then none
  else if b < 0xE0 then some [(0x80, 0xBF)]
  else if b == 0xE0 then some [(0xA0, 0xBF), (0x80, 0xBF)]
  else if b == 0xED then some [(0x80, 0x9F), (0x80, 0xBF)]
  else if b < 0xF0 then some [(0x80, 0xBF), (0x80, 0xBF)]
  else if b == 0xF0 then some [(0x90, 0xBF), (0x80, 0xBF), (0x80, 0xBF)]
  else if b < 0xF4 then some [(0x80, 0xBF), (0x80, 0xBF), (0x80, 0xBF)]
  else if b == 0xF4 then some [(0x80, 0x8F), (0x80, 0xBF), (0x80, 0xBF)]
  else none

/--
The first fault of a byte sequence read from index `start + taken` on, where `taken` bytes of a
character that starts at `start` are read and `owed` says what must follow them.
-/
def firstUtf8Fault? (start taken : Nat) (owed : List (UInt8 × UInt8)) : List UInt8 → Option Utf8Fault
  | [] => if owed.isEmpty then none else some ⟨start, none⟩
  | b :: bs =>
    match owed with
    | [] =>
      match continuations? b with
      | some owed => firstUtf8Fault? (start + taken) 1 owed bs
      | none => some ⟨start + taken, some 1⟩
    | (low, high) :: owed =>
      if low ≤ b ∧ b ≤ high then firstUtf8Fault? start (taken + 1) owed bs
      else some ⟨start, some taken⟩

/-- The text of a byte sequence, or its first fault. -/
def decodeUtf8 (bytes : List UInt8) : Except Utf8Fault String :=
  match String.fromUTF8? bytes.toByteArray with
  | some text => .ok text
  | none => .error ((firstUtf8Fault? 0 0 [] bytes).getD ⟨0, none⟩)

/-- Decoding the bytes of a text gives the text. -/
theorem decodeUtf8_utf8 (cs : List Char) : decodeUtf8 (utf8 cs) = .ok (String.ofList cs) := by
  have h : String.fromUTF8? (utf8 cs).toByteArray = some (String.ofList cs) := by
    have hb : (utf8 cs).toByteArray = (String.ofList cs).toByteArray := by
      simp [utf8, List.utf8Encode]
    simp only [hb, String.fromUTF8?, dif_pos (String.ofList cs).isValidUTF8]
    rfl
  simp [decodeUtf8, h]

end Gamebook.Text
