/-!
# Shortest decimals

Of the decimals that read back as the number `m · 2 ^ q`, the shortest one, and of those the one
nearest to the number. Which of two equally near decimals is taken is up to the format that is
written (`Tie`). All arithmetic is exact.
-/

namespace Gamebook.Number

/-- The decimal `digits · 10 ^ exponent`. -/
structure Decimal where
  /-- The digits as one number. -/
  digits : Nat
  /-- The power of ten of the last digit. -/
  exponent : Int
  deriving DecidableEq, Repr

/-- Which of two equally near decimals is taken. -/
inductive Tie where
  /-- The greater one. -/
  | up
  /-- The one with an even last digit. -/
  | even
  deriving DecidableEq, Repr

/-- How many decimal digits a number has; zero has none. -/
def digitCount (n : Nat) : Nat :=
  if n = 0 then 0 else (Nat.toDigits 10 n).length

/-- The least `p` with `num / den < 10 ^ p`, for positive `num` and `den`. -/
def decimalPoint (num den : Nat) : Int :=
  if den ≤ num then digitCount (num / den)
  else 1 - (digitCount ((den - 1) / num) : Int)

/--
The reals that read back as a number, times `10 ^ -k`: `low / den` to `high / den`, around
`value / den`.
-/
structure Interval where
  /-- Numerator of the lower end. -/
  low : Nat
  /-- Numerator of the number itself. -/
  value : Nat
  /-- Numerator of the upper end. -/
  high : Nat
  /-- The common denominator. -/
  den : Nat
  /-- Whether the ends belong to the interval. -/
  closed : Bool

/--
The interval around `m · 2 ^ q` in units of `10 ^ k`. The neighbours are halfway, but the one below
a power of two is only half as far away, unless the exponent is the least one.
-/
def interval (m : Nat) (q k : Int) : Interval :=
  let up := Nat.pow 2 (q - 2).toNat * Nat.pow 10 (-k).toNat
  let below := if m = Nat.pow 2 52 ∧ -1074 < q then 1 else 2
  { low := (4 * m - below) * up
    value := 4 * m * up
    high := (4 * m + 2) * up
    den := Nat.pow 2 (2 - q).toNat * Nat.pow 10 k.toNat
    closed := m % 2 = 0 }

/-- Whether the integer `c` lies in the interval. -/
def Interval.holds (i : Interval) (c : Nat) : Bool :=
  let x := c * i.den
  if i.closed then i.low ≤ x && x ≤ i.high else i.low < x && x < i.high

/-- The integer in the interval that is nearest to the number, if one of its two neighbours is. -/
def Interval.nearest? (i : Interval) (tie : Tie) : Option Nat :=
  let c := i.value / i.den
  match i.holds c, i.holds (c + 1) with
  | false, false => none
  | true, false => some c
  | false, true => some (c + 1)
  | true, true =>
    match compare (2 * i.value) ((2 * c + 1) * i.den), tie with
    | .lt, _ => some c
    | .gt, _ => some (c + 1)
    | .eq, .up => some (c + 1)
    | .eq, .even => some (if c % 2 = 0 then c else c + 1)

/-- The decimal without trailing zeros, which are at most `fuel`. -/
def Decimal.strip : (fuel : Nat) → Decimal → Decimal
  | 0, d => d
  | fuel + 1, d =>
    if d.digits ≠ 0 ∧ d.digits % 10 = 0 then
      Decimal.strip fuel ⟨d.digits / 10, d.exponent + 1⟩
    else d

/-- The shortest decimal with at least `count` and less than `count + fuel` digits, if there is one. -/
def shortestFrom (tie : Tie) (m : Nat) (q point : Int) (count : Nat) : (fuel : Nat) → Decimal
  | 0 =>
    let i := interval m q (point - count)
    ⟨i.value / i.den, point - count⟩
  | fuel + 1 =>
    match (interval m q (point - count)).nearest? tie with
    | some c => Decimal.strip 18 ⟨c, point - count⟩
    | none => shortestFrom tie m q point (count + 1) fuel

/-- The shortest decimal that reads back as `m · 2 ^ q`, for positive `m`. Seventeen digits suffice. -/
def shortest (tie : Tie) (m : Nat) (q : Int) : Decimal :=
  let point := decimalPoint (m * Nat.pow 2 q.toNat) (Nat.pow 2 (-q).toNat)
  shortestFrom tie m q point 1 17

end Gamebook.Number
