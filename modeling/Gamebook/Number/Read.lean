import Gamebook.Text.Blank
import Gamebook.Number.Written

/-!
# Reading numbers

A decimal literal has a sign, digits with an optional point, and an optional exponent; infinities
and `nan` have names. `read?` accepts exactly these texts and gives the nearest number.
-/

namespace Gamebook.Number

/-- The value of a decimal digit. -/
def digitValue (c : Char) : Nat :=
  c.toNat - 48

/-- The number that the digits spell. -/
def digitsValue (cs : List Char) : Nat :=
  cs.foldl (fun n c => n * 10 + digitValue c) 0

/-- The sign of a literal and the text after it. -/
def splitSign : List Char → Bool × List Char
  | '-' :: cs => (true, cs)
  | '+' :: cs => (false, cs)
  | cs => (false, cs)

/-- The exponent that follows the digits of a literal: nothing, or an `e` and an integer. -/
def exponent? : List Char → Option Int
  | [] => some 0
  | c :: cs =>
    if c = 'e' ∨ c = 'E' then
      let (negative, digits) := splitSign cs
      if digits ≠ [] ∧ digits.all Char.isDigit then
        some (if negative then -digitsValue digits else digitsValue digits)
      else none
    else none

/-- The decimal that an unsigned literal spells. -/
def decimal? (cs : List Char) : Option Decimal :=
  let whole := cs.takeWhile Char.isDigit
  let rest := cs.dropWhile Char.isDigit
  let (fraction, rest) :=
    match rest with
    | '.' :: rest => (rest.takeWhile Char.isDigit, rest.dropWhile Char.isDigit)
    | rest => ([], rest)
  if whole ++ fraction = [] then none
  else (exponent? rest).map fun e => ⟨digitsValue (whole ++ fraction), e - fraction.length⟩

/-- The number nearest to a decimal. -/
def Decimal.toFloat (d : Decimal) : Float :=
  if d.exponent < 0 then .ofScientific d.digits true d.exponent.natAbs
  else .ofScientific d.digits false d.exponent.natAbs

/-- The number with the sign. -/
def signed (negative : Bool) (x : Float) : Float :=
  if negative then -x else x

/-- The number that a literal spells, if the text is one. -/
def read? (cs : List Char) : Option Float :=
  let (negative, unsigned) := splitSign cs
  let name := unsigned.map Char.toLower
  if name = ['i', 'n', 'f'] ∨ name = "infinity".toList then some (signed negative (1.0 / 0.0))
  else if name = ['n', 'a', 'n'] then some (0.0 / 0.0)
  else (decimal? unsigned).map fun d => signed negative d.toFloat

end Gamebook.Number
