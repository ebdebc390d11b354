import Gamebook.Expr.Basic
import Gamebook.Number.Read
import Gamebook.Text.Split
import Gamebook.Text.Utf8

/-!
# Tokens of expressions

A text is cut into tokens from the left. At each place the rule with the longest match wins, and
of two rules with equally long matches the first one in `Rule.all`. Main definitions: `Token`,
`Token.Rule`, `Token.longest?`, `Token.scan`.
-/

namespace Gamebook

/-- A token of an expression. -/
inductive Token where
  /-- A number. -/
  | number (x : Float)
  /-- Dice: how many, and with how many sides. -/
  | dice (count sides : Nat)
  /-- A name. -/
  | ident (name : String)
  /-- A truth value. -/
  | bool (b : Bool)
  /-- The word for the opposite of a truth value. -/
  | not
  /-- An operator between operands; a minus may also stand before one. -/
  | op (op : BinaryOp)
  /-- An opening bracket. -/
  | lparen
  /-- A closing bracket. -/
  | rparen
  deriving DecidableEq

namespace Token

/-- A token as it stands in messages. -/
def display : Token → String
  | number x => Number.display x
  | dice count sides => Expr.diceText count sides
  | ident name => name
  | bool b => toString b
  | not => "not"
  | op o => o.symbol
  | lparen => "("
  | rparen => ")"

/-- A kind of text that is a token. -/
inductive Rule where
  /-- An optional count, a `d`, and the sides or a `%`. -/
  | dice
  /-- Digits, with a fraction or without. -/
  | number
  /-- A given text. -/
  | fixed (text : String) (token : Token)
  /-- A letter or underscore, and letters, digits and underscores after it. -/
  | ident

/-- The rules, the more special ones first. -/
def Rule.all : List Rule :=
  [dice, number,
    fixed "true" (.bool true), fixed "false" (.bool false),
    fixed "and" (.op .and), fixed "&&" (.op .and), fixed "or" (.op .or), fixed "||" (.op .or),
    fixed "not" .not, fixed "!" .not,
    ident,
    fixed "+" (.op .add), fixed "-" (.op .sub), fixed "*" (.op .mul), fixed "/" (.op .div),
    fixed "%" (.op .rem), fixed "^" (.op .pow), fixed "(" .lparen, fixed ")" .rparen,
    fixed "<" (.op .lt), fixed "<=" (.op .le), fixed ">" (.op .gt), fixed ">=" (.op .ge),
    fixed "=" (.op .eq), fixed "==" (.op .eq), fixed "!=" (.op .ne)]

/-- How many digits a text starts with. -/
def digitCount (cs : List Char) : Nat :=
  (cs.takeWhile Char.isDigit).length

/-- Whether a character may stand at the start of a name. -/
def isNameStart (c : Char) : Bool :=
  c.isAlpha || c == '_'

/-- Whether a character may stand inside of a name. -/
def isNameChar (c : Char) : Bool :=
  c.isAlphanum || c == '_'

/-- How many characters at the start of a text a rule matches at most; none if it does not match. -/
def Rule.reach : Rule → List Char → Nat
  | dice, cs =>
    let count := digitCount cs
    match cs.drop count with
    | 'd' :: '%' :: _ => count + 2
    | 'd' :: rest => if digitCount rest = 0 then 0 else count + 1 + digitCount rest
    | _ => 0
  | number, cs =>
    let whole := digitCount cs
    if whole = 0 then 0
    else
      match cs.drop whole with
      | '.' :: rest => if digitCount rest = 0 then whole else whole + 1 + digitCount rest
      | _ => whole
  | fixed text _, cs => if (Text.dropPrefix? text.toList cs).isSome then text.toList.length else 0
  | ident, [] => 0
  | ident, c :: cs => if isNameStart c then 1 + (cs.takeWhile isNameChar).length else 0

/-- The first of the rules with the longest match at the start of a text, and its reach. -/
def longest? (cs : List Char) : List Rule → Option (Rule × Nat)
  | [] => none
  | rule :: rules =>
    match longest? cs rules with
    | some (other, n) => if n ≤ rule.reach cs then some (rule, rule.reach cs) else some (other, n)
    | none => if 0 < rule.reach cs then some (rule, rule.reach cs) else none

/-- A number of dice or sides: at most 32 bits. -/
def small? (digits : List Char) : Option Nat :=
  let n := Number.digitsValue digits
  if n < Nat.pow 2 32 then some n else none

/-- The token that a text matched by a rule is; dice may ask for too much. -/
def Rule.token? : Rule → List Char → Option Token
  | dice, cs => do
    let (before, after) ← Text.cutAtFirst? 'd' cs
    let count ← if before = [] then some 1 else small? before
    let sides ← if after = ['%'] then some 100 else small? after
    return .dice count sides
  | number, cs => (Number.read? cs).map .number
  | fixed _ token, _ => some token
  | ident, cs => some (.ident (.ofList cs))

/-- A token and the bytes that it takes up. -/
structure Located where
  /-- The token. -/
  token : Token
  /-- The offset of its first byte. -/
  start : Nat
  /-- The offset after its last byte. -/
  stop : Nat
  deriving DecidableEq

/-- A text that is no token. -/
structure Unexpected where
  /-- The text. -/
  text : String
  /-- The offset of its first byte. -/
  offset : Nat
  deriving DecidableEq, Repr

/-- Whether a character may stand between tokens. -/
def isGap (c : Char) : Bool :=
  c == ' ' || c == '\t' || c == '\r' || c == '\n'

/--
The tokens of a text that starts at an offset, where the first `taken` characters belong to the
token before.
-/
def scanFrom (offset taken : Nat) : List Char → Except Unexpected (List Located)
  | [] => .ok []
  | c :: cs =>
    let next := offset + Text.charSize c
    match taken with
    | taken + 1 => scanFrom next taken cs
    | 0 =>
      if isGap c then scanFrom next 0 cs
      else
        match longest? (c :: cs) Rule.all with
        | none => .error ⟨.ofList [c], offset⟩
        | some (rule, n) =>
          let slice := (c :: cs).take n
          match rule.token? slice with
          | none => .error ⟨.ofList slice, offset⟩
          | some token =>
            (scanFrom next (n - 1) cs).map (⟨token, offset, offset + Text.byteSize slice⟩ :: ·)

/-- The tokens of a text. -/
def scan (text : String) : Except Unexpected (List Located) :=
  scanFrom 0 0 text.toList

end Token

end Gamebook
