import Gamebook.Number.Binary
import Gamebook.Number.Shortest

/-!
# Written numbers

Two texts of a number. What players and authors read (`display`) never has an exponent. What a JSON
document holds (`jsonText`) has one far away from zero and writes integers below nine quadrillion
without a fraction.
-/

namespace Gamebook.Number

/-- The decimal digits of a number. -/
def natText (n : Nat) : List Char :=
  Nat.toDigits 10 n

/-- The decimal text of an integer. -/
def intText (n : Int) : List Char :=
  if n < 0 then '-' :: natText n.natAbs else natText n.natAbs

/-- The digits of a decimal. -/
def Decimal.text (d : Decimal) : List Char :=
  natText d.digits

/-- The power of ten of the first digit. -/
def Decimal.magnitude (d : Decimal) : Int :=
  d.exponent + d.text.length - 1

/-- A decimal written without an exponent; `pointZero` says whether an integer keeps a fraction. -/
def Decimal.positional (pointZero : Bool) (d : Decimal) : List Char :=
  let digits := d.text
  if 0 ≤ d.exponent then
    digits ++ List.replicate d.exponent.toNat '0' ++ if pointZero then ['.', '0'] else []
  else
    let places := (-d.exponent).toNat
    if places < digits.length then
      digits.take (digits.length - places) ++ '.' :: digits.drop (digits.length - places)
    else
      '0' :: '.' :: List.replicate (places - digits.length) '0' ++ digits

/-- A decimal written with one digit before the point and a signed exponent. -/
def Decimal.scientific (d : Decimal) : List Char :=
  let fraction :=
    match d.text with
    | first :: second :: rest => first :: '.' :: second :: rest
    | digits => digits
  let sign := if d.magnitude < 0 then '-' else '+'
  fraction ++ 'e' :: sign :: natText d.magnitude.natAbs

/-- The sign of a written number. -/
def signText (negative : Bool) : List Char :=
  if negative then ['-'] else []

/--
The number as players and authors read it: the fewest digits that read back, without an exponent,
without a fraction on an integer, and without a sign on zero. Of two nearest decimals the greater is
taken.
-/
def display (x : Float) : String :=
  match Binary.ofFloat x with
  | .nan => "NaN"
  | .infinite negative => .ofList (signText negative ++ ['i', 'n', 'f'])
  | .finite negative m q =>
    if m = 0 then "0"
    else .ofList (signText negative ++ (shortest .up m q).positional false)

/--
The number as a JSON fraction: the fewest digits that read back, positional from `1e-5` up to
`1e16` and with an exponent elsewhere. JSON has no text for infinities and for what is no number.
-/
def fractionText (x : Float) : List Char :=
  match Binary.ofFloat x with
  | .nan => ['n', 'u', 'l', 'l']
  | .infinite _ => ['n', 'u', 'l', 'l']
  | .finite negative m q =>
    if m = 0 then signText negative ++ ['0', '.', '0']
    else
      let d := shortest .even m q
      signText negative ++
        if -5 ≤ d.magnitude ∧ d.magnitude < 16 then d.positional true else d.scientific

/-- The integer that is written for a number, if it is one below nine quadrillion. -/
def smallInteger? (x : Float) : Option Int :=
  if -9.0e15 < x && x < 9.0e15 then integer? x else none

/-- The number in a JSON document. -/
def jsonText (x : Float) : List Char :=
  match smallInteger? x with
  | some n => intText n
  | none => fractionText x

end Gamebook.Number
