import Gamebook.Expr.Parser
import Gamebook.Number.Binary

/-!
# Values of expressions

An expression without variables and dice has a value: a finite number or a truth value, where truth
values count as one and zero, and zero counts as false. Main definitions: `Value`, `Expr.Fault`,
`BinaryOp.apply`, `Expr.evaluate`, `Expr.read`, `evaluateText`.
-/

namespace Gamebook

/-- The value of an expression. -/
inductive Value where
  /-- A number. -/
  | number (x : Float)
  /-- A truth value. -/
  | bool (b : Bool)
  deriving DecidableEq

namespace Value

/-- The number that a value counts as. -/
def toNumber : Value → Float
  | number x => x
  | bool true => 1
  | bool false => 0

/-- The truth value that a value counts as. -/
def truthy : Value → Bool
  | number x => x != 0 && !x.isNaN
  | bool b => b

/-- The text of a value. -/
def display : Value → String
  | number x => Number.display x
  | bool b => toString b

end Value

/-- Why an expression has no value. -/
inductive Expr.Fault where
  /-- Dice that are no dice. -/
  | invalidDice (text : String)
  /-- More dice than may be rolled together. -/
  | tooManyDice (count : Nat)
  /-- A text that is no token. -/
  | unexpected (fault : Token.Unexpected)
  /-- A token in the wrong place. -/
  | misplaced (fault : Expr.Misplaced)
  /-- A variable. -/
  | unresolved (name : String)
  /-- A number that is not finite. -/
  | nonFinite
  /-- Dice where none are rolled. -/
  | unrolledDice (count sides : Nat)
  deriving DecidableEq

/-- How many dice may be rolled together. -/
def maxDice : Nat := 1000

/-- The wording of a fault. -/
def Expr.Fault.message : Expr.Fault → String
  | .invalidDice text => "invalid dice notation: " ++ text
  | .tooManyDice count => s!"too many dice: {count} (max {maxDice})"
  | .unexpected fault => s!"unexpected input '{fault.text}' at offset {fault.offset}"
  | .misplaced fault => "parse error: " ++ fault.message
  | .unresolved name => "unresolved variable: " ++ name
  | .nonFinite => "result is not a finite number"
  | .unrolledDice count sides => "dice cannot be rolled here: " ++ Expr.diceText count sides

/-- A number as a value, if it is finite. -/
def Value.finite (x : Float) : Except Expr.Fault Value :=
  if x.isFinite then .ok (.number x) else .error .nonFinite

/-- The value of an operator before a value. -/
def UnaryOp.apply : UnaryOp → Value → Except Expr.Fault Value
  | neg, v => Value.finite (-v.toNumber)
  | not, v => .ok (.bool !v.truthy)

/-- The value of an operator between values. -/
def BinaryOp.apply (op : BinaryOp) (left right : Value) : Except Expr.Fault Value :=
  let a := left.toNumber
  let b := right.toNumber
  match op with
  | add => Value.finite (a + b)
  | sub => Value.finite (a - b)
  | mul => Value.finite (a * b)
  | div => Value.finite (a / b)
  | rem => Value.finite (Number.remainder a b)
  | pow => Value.finite (a ^ b)
  | lt => .ok (.bool (a < b))
  | le => .ok (.bool (a ≤ b))
  | gt => .ok (.bool (b < a))
  | ge => .ok (.bool (b ≤ a))
  | eq => .ok (.bool (a == b))
  | ne => .ok (.bool (a != b))
  | and => .ok (.bool (left.truthy && right.truthy))
  | or => .ok (.bool (left.truthy || right.truthy))

/-- The value that the left operand alone decides, if it does. -/
def BinaryOp.shortcut? (op : BinaryOp) (left : Value) : Option Value :=
  match op with
  | and => if left.truthy then none else some (.bool false)
  | or => if left.truthy then some (.bool true) else none
  | _ => none

namespace Expr

/-- The value of an expression from its parts; dice and variables have none. -/
def value : Expr → Except Fault Value
  | number x => Value.finite x
  | bool b => .ok (.bool b)
  | var name => .error (.unresolved name)
  | dice count sides => .error (.unrolledDice count sides)
  | unary op operand =>
    match operand.value with
    | .error fault => .error fault
    | .ok v => op.apply v
  | binary op left right =>
    match left.value with
    | .error fault => .error fault
    | .ok a =>
      match op.shortcut? a with
      | some v => .ok v
      | none =>
        match right.value with
        | .error fault => .error fault
        | .ok b => op.apply a b

/-- The value of an expression; a variable anywhere in it is a fault. -/
def evaluate (e : Expr) : Except Fault Value :=
  match e.firstVariable? with
  | some name => .error (.unresolved name)
  | none => e.value

/-- The expression that a text is. -/
def read (text : String) : Except Fault Expr :=
  match Token.scan text with
  | .error fault => .error (.unexpected fault)
  | .ok tokens =>
    match ofTokens (tokens.map (·.token)) with
    | .error fault => .error (.misplaced fault)
    | .ok e => .ok e

end Expr

/-- The value of a text that is an expression. -/
def evaluateText (text : String) : Except Expr.Fault Value :=
  match Expr.read text with
  | .error fault => .error fault
  | .ok e => e.evaluate

end Gamebook
