/-!
# Numbers in binary

The parts of a 64-bit floating-point number: a sign and `m · 2 ^ q` for a finite one. Besides taking
a number apart (`Binary.ofFloat`) and building one (`exactly`), this module holds the remainder of a
division (`remainder`), which is exact.
-/

namespace Gamebook.Number

/-- A floating-point number taken apart. -/
inductive Binary where
  /-- Not a number. -/
  | nan
  /-- An infinity. -/
  | infinite (negative : Bool)
  /-- The number `m · 2 ^ q`, or its negation. -/
  | finite (negative : Bool) (m : Nat) (q : Int)
  deriving DecidableEq, Repr

/-- The parts of a number; a finite one has the greatest `m` below `2 ^ 53` or the least exponent. -/
def Binary.ofFloat (x : Float) : Binary :=
  match x.toModel.unpack with
  | .notANumber => .nan
  | .infinity sign => .infinite (match sign with | .negative => true | .positive => false)
  | .zero sign => .finite (match sign with | .negative => true | .positive => false) 0 0
  | .finite sign m q _ => .finite (match sign with | .negative => true | .positive => false) m q

/-- The number nearest to `m · 2 ^ q`. -/
def nearest (negative : Bool) (m : Nat) (q : Int) : Float :=
  let sign := if negative then .negative else .positive
  if m = 0 then .ofModel (.pack (.zero sign))
  else .ofModel (.pack (.round .binary64 sign m q))

/--
The remainder of `x / y` with the quotient cut off toward zero: it has the sign of `x` and is exact.
A division by zero or of an infinity has none.
-/
def remainder (x y : Float) : Float :=
  match Binary.ofFloat x, Binary.ofFloat y with
  | .finite negative m q, .finite _ n r =>
    if n = 0 then 0.0 / 0.0
    else
      let e := min q r
      nearest negative (m * Nat.pow 2 (q - e).toNat % (n * Nat.pow 2 (r - e).toNat)) e
  | .finite _ _ _, .infinite _ => x
  | _, _ => 0.0 / 0.0

/-- The integer that a number is, if it is one. -/
def integer? (x : Float) : Option Int :=
  match Binary.ofFloat x with
  | .finite negative m q =>
    if 0 ≤ q ∨ m % Nat.pow 2 (-q).toNat = 0 then
      let n : Nat := if 0 ≤ q then m * Nat.pow 2 q.toNat else m / Nat.pow 2 (-q).toNat
      some (if negative then -(n : Int) else n)
    else none
  | _ => none

end Gamebook.Number
