import Gamebook.Number.Written

/-!
# Expressions

Conditions and the values of actions are expressions over numbers, truth values, variables and dice.
Main definitions: `Expr`, its operators, and `Expr.firstVariable?`.
-/

namespace Gamebook

/-- An operator before its operand. -/
inductive UnaryOp where
  /-- The negative of a number. -/
  | neg
  /-- The opposite of a truth value. -/
  | not
  deriving DecidableEq, Repr

/-- An operator between its operands. -/
inductive BinaryOp where
  /-- The sum. -/
  | add
  /-- The difference. -/
  | sub
  /-- The product. -/
  | mul
  /-- The quotient. -/
  | div
  /-- The remainder. -/
  | rem
  /-- The power. -/
  | pow
  /-- Less than. -/
  | lt
  /-- At most. -/
  | le
  /-- Greater than. -/
  | gt
  /-- At least. -/
  | ge
  /-- Equal. -/
  | eq
  /-- Different. -/
  | ne
  /-- Both. -/
  | and
  /-- At least one. -/
  | or
  deriving DecidableEq, Repr

/-- An expression. -/
inductive Expr where
  /-- A number. -/
  | number (x : Float)
  /-- A truth value. -/
  | bool (b : Bool)
  /-- A variable. -/
  | var (name : String)
  /-- Dice: how many, and with how many sides. -/
  | dice (count sides : Nat)
  /-- An operator before an expression. -/
  | unary (op : UnaryOp) (operand : Expr)
  /-- An operator between expressions. -/
  | binary (op : BinaryOp) (left right : Expr)
  deriving DecidableEq

/-- How an operator is written. -/
def BinaryOp.symbol : BinaryOp → String
  | add => "+"
  | sub => "-"
  | mul => "*"
  | div => "/"
  | rem => "%"
  | pow => "^"
  | lt => "<"
  | le => "<="
  | gt => ">"
  | ge => ">="
  | eq => "=="
  | ne => "!="
  | and => "and"
  | or => "or"

/-- How tightly an operator binds: a higher level binds tighter. -/
def BinaryOp.level : BinaryOp → Nat
  | or => 0
  | and => 1
  | lt | le | gt | ge | eq | ne => 2
  | add | sub => 3
  | mul | div | rem => 4
  | pow => 5

/-- Whether a chain of the operator groups from the right. -/
def BinaryOp.groupsRight (op : BinaryOp) : Bool :=
  op == .pow

namespace Expr

/-- The leftmost variable. -/
def firstVariable? : Expr → Option String
  | var name => some name
  | unary _ operand => operand.firstVariable?
  | binary _ left right => left.firstVariable?.or right.firstVariable?
  | _ => none

/-- How dice are written. -/
def diceText (count sides : Nat) : String :=
  s!"{count}d{sides}"

/-- The expression with every operator before its operands, in brackets. -/
def outline : Expr → String
  | number x => Number.display x
  | bool b => toString b
  | var name => "$" ++ name
  | dice count sides => diceText count sides
  | unary .neg operand => "(neg " ++ operand.outline ++ ")"
  | unary .not operand => "(not " ++ operand.outline ++ ")"
  | binary op left right =>
    "(" ++ op.symbol ++ " " ++ left.outline ++ " " ++ right.outline ++ ")"

end Expr

end Gamebook
