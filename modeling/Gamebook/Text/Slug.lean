import Gamebook.Text.Lowercase
import Gamebook.Text.Split
import Gamebook.Text.Utf8

/-!
# Slugs

A slug is an address made from a heading: lower case, hyphens for spaces, and every byte outside of
a small ASCII alphabet written as `%` and two hexadecimal digits. Main definitions: `slugify`, and
its inverse on bytes `percentDecode`.
-/

namespace Gamebook.Text

/-- Whether a character stands for itself in a slug. -/
def isSlugChar (c : Char) : Bool :=
  c.isAlphanum || c ∈ ['-', '_', '.', '!', '~', '*', '\x27', '(', ')']

/-- The upper-case hexadecimal digit of a number below 16. -/
def hexDigit (n : Nat) : Char :=
  if n < 10 then Char.ofNat (48 + n) else Char.ofNat (55 + n)

/-- A byte as `%` and two hexadecimal digits. -/
def percentByte (b : UInt8) : List Char :=
  ['%', hexDigit (b.toNat / 16), hexDigit (b.toNat % 16)]

/-- A character of a slug: itself, or its bytes percent-encoded. -/
def percentEncodeChar (c : Char) : List Char :=
  if isSlugChar c then [c] else (String.utf8EncodeChar c).flatMap percentByte

/-- The text that a slug spells: lower case with a hyphen for each space. -/
def slugText (heading : List Char) : List Char :=
  (lowercase heading).map fun c => if c = ' ' then '-' else c

/-- The slug of a heading. -/
def slugify (heading : String) : String :=
  .ofList ((slugText heading.toList).flatMap percentEncodeChar)

/-- The value of an upper-case hexadecimal digit. -/
def hexValue? (c : Char) : Option Nat :=
  if '0' ≤ c ∧ c ≤ '9' then some (c.toNat - 48)
  else if 'A' ≤ c ∧ c ≤ 'F' then some (c.toNat - 55)
  else none

/-- The bytes of a percent-encoded ASCII text, or none if a `%` starts no byte. -/
def percentDecode : List Char → Option (List UInt8)
  | [] => some []
  | '%' :: h :: l :: rest => do
    let high ← hexValue? h
    let low ← hexValue? l
    let bytes ← percentDecode rest
    return .ofNat (high * 16 + low) :: bytes
  | c :: rest => if c = '%' then none else (percentDecode rest).map (.ofNat c.toNat :: ·)

end Gamebook.Text
