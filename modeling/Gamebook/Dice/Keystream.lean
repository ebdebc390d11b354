/-!
# The keystream behind the dice

Dice are drawn from a ChaCha keystream of twelve rounds. The word at a position depends on the key
and the position only. Main definitions: `Keystream.block`, `Keystream.word`, and the expansion of a
seed to a key, `Keystream.keyOfSeed`.
-/

namespace Gamebook.Keystream

/-- A word with its bits moved round to the left. -/
def rotateLeft (x : UInt32) (n : UInt32) : UInt32 :=
  (x <<< n) ||| (x >>> (32 - n))

/-- The sixteen words of a state of the cipher, row by row. -/
structure Block where
  /-- The first row. -/
  a0 : UInt32
  a1 : UInt32
  a2 : UInt32
  a3 : UInt32
  /-- The second row. -/
  b0 : UInt32
  b1 : UInt32
  b2 : UInt32
  b3 : UInt32
  /-- The third row. -/
  c0 : UInt32
  c1 : UInt32
  c2 : UInt32
  c3 : UInt32
  /-- The fourth row. -/
  d0 : UInt32
  d1 : UInt32
  d2 : UInt32
  d3 : UInt32
  deriving DecidableEq

/-- Four words mixed with each other. -/
def quarterRound (a b c d : UInt32) : UInt32 × UInt32 × UInt32 × UInt32 :=
  let a := a + b
  let d := rotateLeft (d ^^^ a) 16
  let c := c + d
  let b := rotateLeft (b ^^^ c) 12
  let a := a + b
  let d := rotateLeft (d ^^^ a) 8
  let c := c + d
  let b := rotateLeft (b ^^^ c) 7
  (a, b, c, d)

/-- The columns mixed, and then the diagonals. -/
def doubleRound (s : Block) : Block :=
  let (a0, b0, c0, d0) := quarterRound s.a0 s.b0 s.c0 s.d0
  let (a1, b1, c1, d1) := quarterRound s.a1 s.b1 s.c1 s.d1
  let (a2, b2, c2, d2) := quarterRound s.a2 s.b2 s.c2 s.d2
  let (a3, b3, c3, d3) := quarterRound s.a3 s.b3 s.c3 s.d3
  let (a0, b1, c2, d3) := quarterRound a0 b1 c2 d3
  let (a1, b2, c3, d0) := quarterRound a1 b2 c3 d0
  let (a2, b3, c0, d1) := quarterRound a2 b3 c0 d1
  let (a3, b0, c1, d2) := quarterRound a3 b0 c1 d2
  ⟨a0, a1, a2, a3, b0, b1, b2, b3, c0, c1, c2, c3, d0, d1, d2, d3⟩

/-- The words of a state in order. -/
def Block.words (s : Block) : List UInt32 :=
  [s.a0, s.a1, s.a2, s.a3, s.b0, s.b1, s.b2, s.b3, s.c0, s.c1, s.c2, s.c3, s.d0, s.d1, s.d2, s.d3]

/-- The sums of the words of two states. -/
def Block.add (s t : Block) : Block :=
  ⟨s.a0 + t.a0, s.a1 + t.a1, s.a2 + t.a2, s.a3 + t.a3,
    s.b0 + t.b0, s.b1 + t.b1, s.b2 + t.b2, s.b3 + t.b3,
    s.c0 + t.c0, s.c1 + t.c1, s.c2 + t.c2, s.c3 + t.c3,
    s.d0 + t.d0, s.d1 + t.d1, s.d2 + t.d2, s.d3 + t.d3⟩

/-- A key of eight words. -/
structure Key where
  k0 : UInt32
  k1 : UInt32
  k2 : UInt32
  k3 : UInt32
  k4 : UInt32
  k5 : UInt32
  k6 : UInt32
  k7 : UInt32
  deriving DecidableEq, Repr

/-- The state that the block with a number starts from. -/
def start (key : Key) (number : Nat) : Block :=
  ⟨0x61707865, 0x3320646e, 0x79622d32, 0x6b206574,
    key.k0, key.k1, key.k2, key.k3, key.k4, key.k5, key.k6, key.k7,
    .ofNat number, .ofNat (number / Nat.pow 2 32), 0, 0⟩

/-- The block with a number: six double rounds on the state it starts from, added to that state. -/
def block (key : Key) (number : Nat) : Block :=
  let s := start key number
  (Nat.repeat doubleRound 6 s).add s

/-- The word at a position of the keystream. -/
def word (key : Key) (position : Nat) : UInt32 :=
  (block key (position / 16)).words.getD (position % 16) 0

/-- A step of the generator that expands seeds. -/
def nextSeed (s : UInt64) : UInt64 :=
  s * 6364136223846793005 + 11634580027462260723

/-- The word that a state of the expanding generator gives. -/
def seedWord (s : UInt64) : UInt32 :=
  let x := (((s >>> 18) ^^^ s) >>> 27).toUInt32
  let n := (s >>> 59).toUInt32
  (x >>> n) ||| (x <<< ((32 - n) &&& 31))

/-- The key that a seed expands to. -/
def keyOfSeed (seed : UInt64) : Key :=
  let s0 := nextSeed seed
  let s1 := nextSeed s0
  let s2 := nextSeed s1
  let s3 := nextSeed s2
  let s4 := nextSeed s3
  let s5 := nextSeed s4
  let s6 := nextSeed s5
  let s7 := nextSeed s6
  ⟨seedWord s0, seedWord s1, seedWord s2, seedWord s3, seedWord s4, seedWord s5, seedWord s6,
    seedWord s7⟩

end Gamebook.Keystream
