/-!
# Base64

Bytes as text over the alphabet `A-Z a-z 0-9 + /`, three bytes to four symbols, with `=` filling up
the last group. Reading is strict: the filling must be there, and the bits that it replaces must be
zero.
-/

namespace Gamebook.Text.Base64

/-- Why a byte sequence is no Base64 text. -/
inductive Fault where
  /-- A byte that may not stand at its offset. -/
  | symbol (byte : UInt8) (offset : Nat)
  /-- A last group with a single symbol. -/
  | length (n : Nat)
  /-- A last symbol whose unused bits are not zero. -/
  | lastSymbol (byte : UInt8) (offset : Nat)
  /-- A last group that is not filled up. -/
  | padding
  deriving DecidableEq, Repr

/-- The wording of a fault. -/
def Fault.message : Fault → String
  | .symbol byte offset => s!"Invalid symbol {byte.toNat}, offset {offset}."
  | .length n => s!"Invalid input length: {n}"
  | .lastSymbol byte offset => s!"Invalid last symbol {byte.toNat}, offset {offset}."
  | .padding => "Invalid padding"

/-- The symbol with value `v`, for `v` below 64. -/
def symbol (v : Nat) : UInt8 :=
  if v < 26 then .ofNat (65 + v)
  else if v < 52 then .ofNat (71 + v)
  else if v < 62 then .ofNat (v - 4)
  else if v = 62 then 43
  else 47

/-- The value of a symbol. -/
def value? (b : UInt8) : Option Nat :=
  if 65 ≤ b ∧ b ≤ 90 then some (b.toNat - 65)
  else if 97 ≤ b ∧ b ≤ 122 then some (b.toNat - 71)
  else if 48 ≤ b ∧ b ≤ 57 then some (b.toNat + 4)
  else if b = 43 then some 62
  else if b = 47 then some 63
  else none

/-- The byte that fills up the last group. -/
def filler : UInt8 := 61

/-- The Base64 text of a byte sequence, as ASCII bytes. -/
def encode : List UInt8 → List UInt8
  | [] => []
  | [a] =>
    let n := a.toNat * 16
    [symbol (n / 64), symbol (n % 64), filler, filler]
  | [a, b] =>
    let n := (a.toNat * 256 + b.toNat) * 4
    [symbol (n / 4096), symbol (n / 64 % 64), symbol (n % 64), filler]
  | a :: b :: c :: rest =>
    let n := (a.toNat * 256 + b.toNat) * 256 + c.toNat
    symbol (n / 262144) :: symbol (n / 4096 % 64) :: symbol (n / 64 % 64) :: symbol (n % 64) ::
      encode rest

/-- The values of the symbols of a group that is not the last one. -/
def groupValues (offset : Nat) : List UInt8 → Except Fault (List Nat)
  | [] => .ok []
  | b :: bs =>
    match value? b with
    | none => .error (.symbol b offset)
    | some v => (groupValues (offset + 1) bs).map (v :: ·)

/-- The three bytes of four values. -/
def groupBytes (values : List Nat) : List UInt8 :=
  let n := values.foldl (fun n v => n * 64 + v) 0
  [.ofNat (n / 65536), .ofNat (n / 256 % 256), .ofNat (n % 256)]

/-- What is read of the last group: the values of its symbols, its last symbol, its filling. -/
structure LastGroup where
  /-- The values of the symbols. -/
  values : List Nat := []
  /-- The last symbol. -/
  last : UInt8 := 0
  /-- How many fillers follow the symbols. -/
  fillers : Nat := 0

/-- Reads the last group from its symbol number `index` on. -/
def LastGroup.read (offset index : Nat) (group : LastGroup) : List UInt8 → Except Fault LastGroup
  | [] => .ok group
  | b :: bs =>
    if b = filler then
      if index < 2 then .error (.symbol b (offset + index))
      else LastGroup.read offset (index + 1) { group with fillers := group.fillers + 1 } bs
    else if 0 < group.fillers then .error (.symbol filler (offset + index - group.fillers))
    else
      match value? b with
      | none => .error (.symbol b (offset + index))
      | some v =>
        LastGroup.read offset (index + 1) { group with values := group.values ++ [v], last := b } bs

/-- The bytes of the last group. -/
def lastBytes (offset : Nat) (bytes : List UInt8) : Except Fault (List UInt8) :=
  match LastGroup.read offset 0 {} bytes with
  | .error fault => .error fault
  | .ok { values, last, fillers } =>
    let count := values.length
    if count < 2 then .error (.length (offset + count))
    else if (count + fillers) % 4 ≠ 0 then .error .padding
    else
      let kept := count * 6 / 8
      let n := (values ++ List.replicate (4 - count) 0).foldl (fun n v => n * 64 + v) 0
      if n % Nat.pow 256 (3 - kept) ≠ 0 then .error (.lastSymbol last (offset + count - 1))
      else .ok ([.ofNat (n / 65536), .ofNat (n / 256 % 256), .ofNat (n % 256)].take kept)

/-- The bytes of a Base64 text that starts at an offset. -/
def decodeFrom (offset : Nat) : List UInt8 → Except Fault (List UInt8)
  | [] => .ok []
  | a :: b :: c :: d :: e :: rest =>
    match groupValues offset [a, b, c, d] with
    | .error fault => .error fault
    | .ok values => (decodeFrom (offset + 4) (e :: rest)).map (groupBytes values ++ ·)
  | group => lastBytes offset group

/-- A last byte that is no symbol, if it is alone in its group. -/
def strayLast? (bytes : List UInt8) : Option Fault :=
  match bytes.getLast? with
  | some b =>
    if bytes.length % 4 = 1 ∧ b ≠ filler ∧ value? b = none then
      some (.symbol b (bytes.length - 1))
    else none
  | none => none

/-- The bytes of a Base64 text. A stray byte at the very end is reported before any other fault. -/
def decode (bytes : List UInt8) : Except Fault (List UInt8) :=
  match strayLast? bytes with
  | some fault => .error fault
  | none => decodeFrom 0 bytes

end Gamebook.Text.Base64
