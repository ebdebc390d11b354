import Gamebook.Expr.Token

/-!
# From tokens to expressions

Tokens are taken from the left. What has been read is a stack of pending pieces, each of which waits
for an operand, and the operand read last, if there is one. An operator takes the pieces that bind
tighter. The first token that cannot continue any expression is the fault. Main definitions:
`Expr.Progress`, `Expr.ofTokens`.
-/

namespace Gamebook.Expr

/-- A piece of an expression that waits for the operand on its right. -/
inductive Pending where
  /-- An operator before its operand. -/
  | before (op : UnaryOp)
  /-- An operator and its left operand. -/
  | between (op : BinaryOp) (left : Expr)
  /-- An open bracket. -/
  | bracket
  deriving DecidableEq

/-- What may stand where the wrong token stands. -/
inductive Wanted where
  /-- An operand. -/
  | operand
  /-- An operator, or the end of the text. -/
  | operator
  /-- An operator, or the bracket that closes an open one. -/
  | closing
  deriving DecidableEq, Repr

/-- A token, or the end of the text, that cannot continue an expression. -/
structure Misplaced where
  /-- The token, or none at the end. -/
  found : Option Token
  /-- What may stand there. -/
  wanted : Wanted
  deriving DecidableEq

/-- What may stand in a place, in words. -/
def Wanted.text : Wanted → String
  | operand => "'-', 'not', or value"
  | operator => "'^', '*', '/', '%', '+', '-', '<=', '<', '>=', '>', '==', '!=', 'and', 'or', or end of input"
  | closing => "'^', '*', '/', '%', '+', '-', '<=', '<', '>=', '>', '==', '!=', 'and', 'or', or ')'"

/-- The wording of a misplaced token. -/
def Misplaced.message (fault : Misplaced) : String :=
  let found :=
    match fault.found with
    | some token => "'" ++ token.display ++ "'"
    | none => "end of input"
  "found " ++ found ++ " expected " ++ fault.wanted.text

/-- How far an expression is read: the pending pieces, innermost first, and the last operand. -/
structure Progress where
  /-- The pieces that wait for an operand. -/
  pending : List Pending
  /-- The operand read last; none if an operand is due. -/
  operand : Option Expr
  deriving DecidableEq

/-- Whether the right operand of one operator goes to it before the next operator takes it. -/
def bindsBefore (op next : BinaryOp) : Bool :=
  next.level < op.level || (next.level = op.level && !next.groupsRight)

/-- Gives an operand to the pending operators that bind before the next one. -/
def reduce (next : BinaryOp) : List Pending → Expr → List Pending × Expr
  | .before op :: pending, e => reduce next pending (.unary op e)
  | .between op left :: pending, e =>
    if bindsBefore op next then reduce next pending (.binary op left e)
    else (.between op left :: pending, e)
  | pending, e => (pending, e)

/-- Gives an operand to all pending operators up to the innermost open bracket. -/
def reduceAll : List Pending → Expr → List Pending × Expr
  | .before op :: pending, e => reduceAll pending (.unary op e)
  | .between op left :: pending, e => reduceAll pending (.binary op left e)
  | pending, e => (pending, e)

/-- What may follow an operand. -/
def wantedAfter (pending : List Pending) : Wanted :=
  if .bracket ∈ pending then .closing else .operator

/-- The progress where an operand is due. -/
def Progress.due (pending : List Pending) : Progress :=
  ⟨pending, none⟩

/-- The progress after an operand. -/
def Progress.after (pending : List Pending) (e : Expr) : Progress :=
  ⟨pending, some e⟩

/-- One more token where an operand is due. -/
def startOperand (pending : List Pending) : Token → Except Misplaced Progress
  | .number x => .ok (.after pending (.number x))
  | .bool b => .ok (.after pending (.bool b))
  | .dice count sides => .ok (.after pending (.dice count sides))
  | .ident name => .ok (.after pending (.var name))
  | .lparen => .ok (.due (.bracket :: pending))
  | .not => .ok (.due (.before .not :: pending))
  | .op .sub => .ok (.due (.before .neg :: pending))
  | token => .error ⟨some token, .operand⟩

/-- One more token after an operand. -/
def continueOperand (pending : List Pending) (e : Expr) : Token → Except Misplaced Progress
  | .op op =>
    let (pending, e) := reduce op pending e
    .ok (.due (.between op e :: pending))
  | .rparen =>
    match reduceAll pending e with
    | (.bracket :: pending, e) => .ok (.after pending e)
    | _ => .error ⟨some .rparen, wantedAfter pending⟩
  | token => .error ⟨some token, wantedAfter pending⟩

/-- One more token. -/
def Progress.push (progress : Progress) (token : Token) : Except Misplaced Progress :=
  match progress.operand with
  | none => startOperand progress.pending token
  | some e => continueOperand progress.pending e token

/-- The end of the tokens. -/
def Progress.finish (progress : Progress) : Except Misplaced Expr :=
  match progress.operand with
  | none => .error ⟨none, .operand⟩
  | some e =>
    match reduceAll progress.pending e with
    | ([], e) => .ok e
    | (pending, _) => .error ⟨none, wantedAfter pending⟩

/-- The expression that tokens make up. -/
def ofTokens (tokens : List Token) : Except Misplaced Expr := do
  (← tokens.foldlM Progress.push (.due [])).finish

end Gamebook.Expr
