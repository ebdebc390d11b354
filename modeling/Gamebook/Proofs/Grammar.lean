import Gamebook.Expr.Parser
import Mathlib.Data.List.Chain
import Mathlib.Tactic.Lemma

/-!
# The grammar of expressions

Tokens make up an expression if they are its printing, where brackets may stand around any part and
do stand around a part that binds less tightly than its place demands. Reading accepts exactly these
tokens. Both halves follow the pending pieces: tokens that spell an operand leave it to be completed
by any operator that may take it, and whatever has been read spells the pieces and the last operand.
Main definitions: `Expr.tokens`, `Expr.Spelled`. Main statement: `Expr.ofTokens_grammar`.
-/

namespace Gamebook

/-- The level that binds tighter than every operator between operands. -/
def tightLevel : Nat := 6

/-- The token of an operator before its operand. -/
def UnaryOp.token : UnaryOp → Token
  | neg => .op .sub
  | not => .not

namespace BinaryOp

/-- The operators between operands, from those that bind least to the one that binds tightest. -/
def tiers : List (List BinaryOp) :=
  [[or], [and], [lt, le, gt, ge, eq, ne], [add, sub], [mul, div, rem], [pow]]

/-- The level that the left operand of an operator has at least, unless it is in brackets. -/
def leftLevel (op : BinaryOp) : Nat :=
  if op.groupsRight then op.level + 1 else op.level

/-- The level that the right operand of an operator has at least, unless it is in brackets. -/
def rightLevel (op : BinaryOp) : Nat :=
  if op.groupsRight then op.level else op.level + 1

variable {op next : BinaryOp}

/-- The level of an operator is the place of its tier. -/
lemma mem_tiers (op : BinaryOp) : op ∈ tiers.getD op.level [] := by
  cases op <;> decide

/-- Only powers group from the right. -/
lemma groupsRight_iff (op : BinaryOp) : op.groupsRight = true ↔ op = .pow :=
  beq_iff_eq

lemma level_lt : op.level < tightLevel := by
  cases op <;> decide

/-- The operators that group from the right are those that bind tightest. -/
lemma groupsRight_eq : op.groupsRight = decide (op.level = 5) := by
  cases op <;> rfl

lemma leftLevel_le : op.leftLevel ≤ tightLevel := by
  cases op <;> decide

lemma rightLevel_le : op.rightLevel ≤ tightLevel := by
  cases op <;> decide

lemma level_le_leftLevel : op.level ≤ op.leftLevel := by
  cases op <;> decide

lemma level_le_rightLevel : op.level ≤ op.rightLevel := by
  cases op <;> decide

/-- An operator takes its right operand before the next one does if it may be the left one there. -/
lemma bindsBefore_iff : Expr.bindsBefore op next = true ↔ next.leftLevel ≤ op.level := by
  rw [Expr.bindsBefore, leftLevel]
  cases next.groupsRight with
  | true =>
    rw [Bool.not_true, Bool.and_false, Bool.or_false, decide_eq_true_iff, if_pos rfl]
    exact Nat.lt_iff_add_one_le
  | false =>
    rw [Bool.not_false, Bool.and_true, Bool.or_eq_true, decide_eq_true_iff, decide_eq_true_iff,
      if_neg Bool.false_ne_true]
    omega

/-- An operator leaves its right operand to the next one if that binds as tightly as is demanded. -/
lemma bindsBefore_eq_false : ¬Expr.bindsBefore op next = true ↔ op.rightLevel ≤ next.level := by
  rw [bindsBefore_iff, leftLevel, rightLevel, groupsRight_eq, groupsRight_eq]
  have := @level_lt op
  have := @level_lt next
  rw [tightLevel] at *
  split <;> split <;> simp_all <;> omega

end BinaryOp

namespace Token

/-- Whether a token is a bracket. -/
def isBracket : Token → Bool
  | lparen | rparen => true
  | _ => false

/-- Whether a token may be the first one of an operand. -/
def opens : Token → Bool
  | number _ | bool _ | dice _ _ | ident _ | lparen | not | op .sub => true
  | _ => false

/-- Whether a token may be the last one of an operand. -/
def closes : Token → Bool
  | number _ | bool _ | dice _ _ | ident _ | rparen => true
  | _ => false

/-- Whether a token may stand after an operand. -/
def continues : Token → Bool
  | op _ | rparen => true
  | _ => false

/-- Whether a token may stand after another one in an expression. -/
def Follows (t u : Token) : Prop :=
  (if t.closes then u.continues else u.opens) = true

end Token

namespace Expr

/-- How tightly the outermost operator of an expression binds. -/
def level : Expr → Nat
  | binary op _ _ => op.level
  | _ => tightLevel

/-- Some tokens, in brackets where that is demanded. -/
def enclose (demanded : Bool) (ts : List Token) : List Token :=
  if demanded then .lparen :: ts ++ [.rparen] else ts

/-- The tokens of an expression, with brackets only where levels and grouping demand them. -/
def tokens : Expr → List Token
  | number x => [.number x]
  | bool b => [.bool b]
  | var name => [.ident name]
  | dice count sides => [.dice count sides]
  | unary op operand => op.token :: enclose (operand.level < tightLevel) operand.tokens
  | binary op left right =>
    enclose (left.level < op.leftLevel) left.tokens ++
      .op op :: enclose (right.level < op.rightLevel) right.tokens

/--
Whether tokens are a printing of an expression in a place that demands a level. Brackets may stand
around every part; they stand around a part whose outermost operator is below the level.
-/
inductive Spelled : Nat → Expr → List Token → Prop where
  | number {level x} : Spelled level (number x) [.number x]
  | bool {level b} : Spelled level (bool b) [.bool b]
  | var {level name} : Spelled level (var name) [.ident name]
  | dice {level count sides} : Spelled level (dice count sides) [.dice count sides]
  | bracket {level e ts} : Spelled 0 e ts → Spelled level e (.lparen :: ts ++ [.rparen])
  | unary {level op operand ts} :
    level ≤ tightLevel → Spelled tightLevel operand ts →
    Spelled level (unary op operand) (op.token :: ts)
  | binary {level op left right ls rs} :
    level ≤ op.level → Spelled op.leftLevel left ls → Spelled op.rightLevel right rs →
    Spelled level (binary op left right) (ls ++ .op op :: rs)

variable {demanded : Bool} {e : Expr} {ts : List Token}

lemma enclose_of_le {l : Nat} (h : l ≤ e.level) : enclose (e.level < l) ts = ts := by
  rw [enclose, decide_eq_false (Nat.not_lt_of_le h)]
  rfl

lemma filter_enclose :
    (enclose demanded ts).filter (!·.isBracket) = ts.filter (!·.isBracket) := by
  cases demanded with
  | true => simp [enclose, Token.isBracket]
  | false => rfl

namespace Spelled

variable {l l' : Nat}

/-- What is a printing in some place is one in every place that demands less. -/
lemma mono (h : Spelled l e ts) (hl : l' ≤ l) : Spelled l' e ts := by
  cases h with
  | number => exact .number
  | bool => exact .bool
  | var => exact .var
  | dice => exact .dice
  | bracket h => exact .bracket h
  | unary hlevel h => exact .unary (Nat.le_trans hl hlevel) h
  | binary hlevel hleft hright => exact .binary (Nat.le_trans hl hlevel) hleft hright

/-- A printing with the brackets that a place demands is a printing in that place. -/
lemma enclose (h : Spelled e.level e ts) : Spelled l e (enclose (e.level < l) ts) := by
  by_cases hl : e.level < l
  · rw [Expr.enclose, if_pos (decide_eq_true hl)]
    exact .bracket (h.mono (Nat.zero_le _))
  · rw [enclose_of_le (Nat.le_of_not_lt hl)]
    exact h.mono (Nat.le_of_not_lt hl)

/-- The tokens of an expression are a printing of it. -/
lemma tokens : ∀ {e : Expr}, Spelled e.level e e.tokens := by
  intro e
  induction e with
  | number x => exact .number
  | bool b => exact .bool
  | var name => exact .var
  | dice count sides => exact .dice
  | unary op operand ih => exact .unary (Nat.le_refl _) ih.enclose
  | binary op left right ihl ihr => exact .binary (Nat.le_refl _) ihl.enclose ihr.enclose

/-- Every printing has the tokens of the expression, with the brackets that its place demands. -/
lemma sublist (h : Spelled l e ts) (hl : l ≤ tightLevel) :
    (Expr.enclose (e.level < l) e.tokens).Sublist ts := by
  induction h with
  | number => rw [enclose_of_le hl]; exact .refl _
  | bool => rw [enclose_of_le hl]; exact .refl _
  | var => rw [enclose_of_le hl]; exact .refl _
  | dice => rw [enclose_of_le hl]; exact .refl _
  | @bracket l e ts h ih =>
    have inner := ih (Nat.zero_le _)
    rw [enclose_of_le (Nat.zero_le _)] at inner
    unfold Expr.enclose
    split
    · exact (inner.cons_cons _).append (.refl _)
    · exact (inner.trans (List.sublist_append_left _ _)).cons _
  | unary hlevel h ih =>
    rw [enclose_of_le hlevel]
    exact (ih (Nat.le_refl _)).cons_cons _
  | @binary _ op _ _ _ _ hlevel hleft hright ihl ihr =>
    rw [enclose_of_le hlevel]
    exact (ihl op.leftLevel_le).append ((ihr op.rightLevel_le).cons_cons _)

/-- Printings of an expression differ in brackets only. -/
lemma filter_isBracket (h : Spelled l e ts) :
    ts.filter (!·.isBracket) = e.tokens.filter (!·.isBracket) := by
  induction h with
  | number => rfl
  | bool => rfl
  | var => rfl
  | dice => rfl
  | bracket h ih =>
    rw [← ih]
    simp [Token.isBracket]
  | unary hlevel h ih =>
    simp only [Expr.tokens, List.filter_cons, filter_enclose, ih]
  | binary hlevel hleft hright ihl ihr =>
    simp only [Expr.tokens, List.filter_append, List.filter_cons, filter_enclose, ihl, ihr]

end Spelled

/-- The level that the innermost pending piece demands of its operand. -/
def demand : List Pending → Nat
  | .before _ :: _ => tightLevel
  | .between op _ :: _ => op.rightLevel
  | _ => 0

lemma demand_le {pending} : demand pending ≤ tightLevel := by
  cases pending with
  | nil => exact Nat.zero_le _
  | cons piece pending =>
    cases piece with
    | before op => exact Nat.le_refl _
    | between op left => exact op.rightLevel_le
    | bracket => exact Nat.zero_le _

/-- Pending pieces that do not bind tighter than an operator leave its left operand to it. -/
lemma reduce_of_demand {op : BinaryOp} {pending e} (h : demand pending ≤ op.level) :
    reduce op pending e = (pending, e) := by
  cases pending with
  | nil => rfl
  | cons piece pending =>
    cases piece with
    | before => exact absurd h (Nat.not_le_of_lt op.level_lt)
    | between other left =>
      rw [reduce, if_neg (BinaryOp.bindsBefore_eq_false.2 h)]
    | bracket => rfl

/--
Whether a progress stands for an operand that was read at a level: every operator that may take an
operand of the level, and the end, find it complete.
-/
structure Completes (level : Nat) (pending : List Pending) (e : Expr) (rest : List Pending)
    (last : Expr) : Prop where
  reduce {next : BinaryOp} : next.leftLevel ≤ level →
    Expr.reduce next rest last = Expr.reduce next pending e
  reduceAll : Expr.reduceAll rest last = Expr.reduceAll pending e

/-- Whether some tokens take the reading from one progress to another. -/
def Progress.Leads (p : Progress) (ts : List Token) (q : Progress) : Prop :=
  ts.foldlM push p = .ok q

namespace Progress.Leads

variable {p q r : Progress} {t : Token} {ts us : List Token}

lemma refl : Leads p [] p :=
  rfl

lemma cons (h : p.push t = .ok q) (hs : Leads q ts r) : Leads p (t :: ts) r := by
  rw [Leads, List.foldlM_cons, h]
  exact hs

lemma append (h : Leads p ts q) (hs : Leads q us r) : Leads p (ts ++ us) r := by
  rw [Leads, List.foldlM_append, h]
  exact hs

lemma cons_cases (h : Leads p (t :: ts) r) : ∃ q, p.push t = .ok q ∧ Leads q ts r := by
  rw [Leads, List.foldlM_cons] at h
  cases e : p.push t with
  | error fault =>
    rw [e] at h
    cases h
  | ok q =>
    rw [e] at h
    exact ⟨q, rfl, h⟩

end Progress.Leads

/-- Tokens that are read are taken in, and what is read is finished after the last one. -/
lemma leads_of_ofTokens (h : ofTokens ts = .ok e) :
    ∃ p, Progress.Leads (.due []) ts p ∧ p.finish = .ok e := by
  rw [ofTokens] at h
  cases run : ts.foldlM Progress.push (.due []) with
  | error fault =>
    rw [run] at h
    cases h
  | ok p =>
    rw [run] at h
    exact ⟨p, run, h⟩

open Progress in
/-- The tokens of an operand are read, and the operand is complete for all that may take it. -/
lemma Spelled.leads {level e ts} (h : Spelled level e ts) {pending} (hp : demand pending ≤ level)
    (hl : level ≤ tightLevel) :
    ∃ rest last, Leads (.due pending) ts (.after rest last) ∧
      Completes level pending e rest last := by
  -- the induction goes through for every stack that asks for no more than the operand gives
  induction h generalizing pending with
  | number => exact ⟨_, _, rfl, fun _ => rfl, rfl⟩
  | bool => exact ⟨_, _, rfl, fun _ => rfl, rfl⟩
  | var => exact ⟨_, _, rfl, fun _ => rfl, rfl⟩
  | dice => exact ⟨_, _, rfl, fun _ => rfl, rfl⟩
  | @bracket level e ts h ih =>
    obtain ⟨rest, last, inner, complete⟩ :=
      @ih (.bracket :: pending) (Nat.le_refl _) (Nat.zero_le _)
    have closed : (Progress.after rest last).push .rparen = .ok (.after pending e) := by
      change continueOperand rest last .rparen = _
      rw [continueOperand, complete.reduceAll]
      rfl
    exact ⟨pending, e, .cons rfl (inner.append (.cons closed .refl)), fun _ => rfl, rfl⟩
  | @unary level op operand ts hlevel h ih =>
    obtain ⟨rest, last, inner, complete⟩ :=
      @ih (.before op :: pending) (Nat.le_refl _) (Nat.le_refl _)
    have opened : (Progress.due pending).push op.token = .ok (.due (.before op :: pending)) := by
      cases op <;> rfl
    refine ⟨rest, last, .cons opened inner, fun hnext => ?_, complete.reduceAll⟩
    exact complete.reduce BinaryOp.leftLevel_le
  | @binary level op left right ls rs hlevel hleft hright ihl ihr =>
    have hdemand : demand pending ≤ op.level := Nat.le_trans hp hlevel
    obtain ⟨rest, last, first, completeLeft⟩ :=
      @ihl pending (Nat.le_trans hdemand BinaryOp.level_le_leftLevel) BinaryOp.leftLevel_le
    have between :
        (Progress.after rest last).push (.op op) = .ok (.due (.between op left :: pending)) := by
      change continueOperand rest last (.op op) = _
      rw [continueOperand, completeLeft.reduce (Nat.le_refl _), reduce_of_demand hdemand]
    obtain ⟨rest, last, second, completeRight⟩ :=
      @ihr (.between op left :: pending) (Nat.le_refl _) BinaryOp.rightLevel_le
    refine ⟨rest, last, first.append (.cons between second), fun {next} hnext => ?_,
      completeRight.reduceAll⟩
    have hbinds := Nat.le_trans hnext hlevel
    rw [completeRight.reduce (Nat.le_trans hbinds BinaryOp.level_le_rightLevel), Expr.reduce,
      if_pos (BinaryOp.bindsBefore_iff.2 hbinds)]

/-- Tokens that are a printing of an expression are read as that expression. -/
lemma Spelled.ofTokens {e ts} (h : Spelled 0 e ts) : ofTokens ts = .ok e := by
  have hdemand : demand [] ≤ 0 := Nat.le_refl _
  obtain ⟨rest, last, run, complete⟩ := h.leads hdemand (Nat.zero_le _)
  have run : ts.foldlM Progress.push (.due []) = .ok (.after rest last) := run
  have done : (Progress.after rest last).finish = .ok e := by
    simp only [Progress.finish, Progress.after, complete.reduceAll]
    rfl
  rw [Expr.ofTokens, run]
  exact done

/-- The tokens that pending pieces are read from. -/
inductive Stacked : List Pending → List Token → Prop where
  | nil : Stacked [] []
  | before {pending ts op} : Stacked pending ts → Stacked (.before op :: pending) (ts ++ [op.token])
  | between {pending ts op left ls} :
    Stacked pending ts → demand pending ≤ op.level → Spelled op.leftLevel left ls →
    Stacked (.between op left :: pending) (ts ++ (ls ++ [.op op]))
  | bracket {pending ts} : Stacked pending ts → Stacked (.bracket :: pending) (ts ++ [.lparen])

/-- The tokens that have been read at some progress. -/
inductive Progress.Reads : Progress → List Token → Prop where
  | due {pending ts} : Stacked pending ts → Reads (.due pending) ts
  | after {pending ts e es} :
    Stacked pending ts → Spelled tightLevel e es → Reads (.after pending e) (ts ++ es)

variable {pending : List Pending} {before es ts : List Token} {level : Nat} {e : Expr}

/-- An operator takes an operand that is read from the tokens before it. -/
lemma Stacked.reduce {next : BinaryOp} (h : Stacked pending before) (he : Spelled level e es)
    (hd : demand pending ≤ level) (hn : next.leftLevel ≤ level) :
    ∃ before' es', Stacked (reduce next pending e).1 before' ∧
      Spelled next.leftLevel (Expr.reduce next pending e).2 es' ∧
      demand (Expr.reduce next pending e).1 ≤ next.level ∧ before ++ es = before' ++ es' := by
  induction h generalizing e es level with
  | nil => exact ⟨[], es, .nil, he.mono hn, Nat.zero_le _, rfl⟩
  | @before pending ts op h ih =>
    have whole : Spelled tightLevel (.unary op e) (op.token :: es) :=
      .unary (Nat.le_refl _) (he.mono hd)
    obtain ⟨before', es', stacked, spelled, demanded, same⟩ :=
      ih whole demand_le BinaryOp.leftLevel_le
    exact ⟨before', es', stacked, spelled, demanded, by rw [← same]; simp⟩
  | @between pending ts op left ls h hdemand hleft ih =>
    by_cases hb : bindsBefore op next = true
    · have whole : Spelled op.level (.binary op left e) (ls ++ .op op :: es) :=
        .binary (Nat.le_refl _) hleft (he.mono hd)
      obtain ⟨before', es', stacked, spelled, demanded, same⟩ :=
        ih whole hdemand (BinaryOp.bindsBefore_iff.1 hb)
      rw [Expr.reduce, if_pos hb]
      exact ⟨before', es', stacked, spelled, demanded, by rw [← same]; simp⟩
    · rw [Expr.reduce, if_neg hb]
      exact ⟨_, es, .between h hdemand hleft, he.mono hn, BinaryOp.bindsBefore_eq_false.1 hb, rfl⟩
  | bracket h => exact ⟨_, es, .bracket h, he.mono hn, Nat.zero_le _, rfl⟩

/-- What is taken up to the innermost open bracket is read from the tokens after it. -/
lemma Stacked.reduceAll (h : Stacked pending before) (he : Spelled level e es)
    (hd : demand pending ≤ level) :
    ∃ before' es', Stacked (reduceAll pending e).1 before' ∧
      Spelled 0 (Expr.reduceAll pending e).2 es' ∧ before ++ es = before' ++ es' := by
  induction h generalizing e es level with
  | nil => exact ⟨[], es, .nil, he.mono (Nat.zero_le _), rfl⟩
  | @before pending ts op h ih =>
    have whole : Spelled tightLevel (.unary op e) (op.token :: es) :=
      .unary (Nat.le_refl _) (he.mono hd)
    obtain ⟨before', es', stacked, spelled, same⟩ := ih whole demand_le
    exact ⟨before', es', stacked, spelled, by rw [← same]; simp⟩
  | @between pending ts op left ls h hdemand hleft ih =>
    have whole : Spelled op.level (.binary op left e) (ls ++ .op op :: es) :=
      .binary (Nat.le_refl _) hleft (he.mono hd)
    obtain ⟨before', es', stacked, spelled, same⟩ := ih whole hdemand
    exact ⟨before', es', stacked, spelled, by rw [← same]; simp⟩
  | bracket h => exact ⟨_, es, .bracket h, he.mono (Nat.zero_le _), rfl⟩

namespace Progress.Reads

variable {p q : Progress} {t : Token}

lemma startOperand (h : Stacked pending ts) (e : startOperand pending t = .ok q) :
    Reads q (ts ++ [t]) := by
  cases t with
  | number x => cases e; exact .after h .number
  | dice count sides => cases e; exact .after h .dice
  | ident name => cases e; exact .after h .var
  | bool b => cases e; exact .after h .bool
  | not => cases e; exact .due (@Stacked.before _ _ .not h)
  | op op =>
    cases op with
    | sub => cases e; exact .due (@Stacked.before _ _ .neg h)
    | _ => cases e
  | lparen => cases e; exact .due (.bracket h)
  | rparen => cases e

lemma continueOperand (h : Stacked pending before) (he : Spelled tightLevel e es)
    (hq : continueOperand pending e t = .ok q) : Reads q (before ++ es ++ [t]) := by
  cases t with
  | op op =>
    obtain ⟨before', es', stacked, spelled, demanded, same⟩ :=
      h.reduce he demand_le op.leftLevel_le
    cases hq
    rw [same, List.append_assoc]
    exact .due (.between stacked demanded spelled)
  | rparen =>
    obtain ⟨before', es', stacked, spelled, same⟩ := h.reduceAll he demand_le
    rw [Expr.continueOperand] at hq
    split at hq
    · next rest last heq =>
      rw [heq] at stacked spelled
      cases stacked with
      | bracket stacked =>
        cases hq
        have closed := Reads.after stacked (.bracket spelled)
        rw [same]
        rwa [List.append_assoc, List.append_assoc]
    · cases hq
  | _ => cases hq

/-- One more token is read. -/
lemma push (h : Reads p ts) (e : p.push t = .ok q) : Reads q (ts ++ [t]) := by
  cases h with
  | due h => exact startOperand h e
  | after h he => exact continueOperand h he e

lemma leads {us} (h : Reads p ts) (e : p.Leads us q) : Reads q (ts ++ us) := by
  induction us generalizing p ts with
  | nil =>
    cases e
    rwa [List.append_nil]
  | cons t us ih =>
    obtain ⟨next, first, rest⟩ := e.cons_cases
    have h := ih (h.push first) rest
    rwa [List.append_assoc] at h

/-- What has been read at the end spells the expression. -/
lemma finish (h : Reads p ts) (hf : p.finish = .ok e) : Spelled 0 e ts := by
  cases h with
  | due h => cases hf
  | @after pending before last es h he =>
    obtain ⟨before', es', stacked, spelled, same⟩ := h.reduceAll he demand_le
    simp only [Progress.finish, Progress.after] at hf
    split at hf
    · next last heq =>
      rw [heq] at stacked spelled
      cases hf
      cases stacked with
      | nil =>
        rw [same]
        exact spelled
    · cases hf

end Progress.Reads

/-- A token that is taken in fits what has been read, and ends an operand or makes one due. -/
lemma push_cases {p q : Progress} {t : Token} (h : p.push t = .ok q) :
    (if p.operand.isSome then t.continues else t.opens) = true ∧ q.operand.isSome = t.closes := by
  obtain ⟨pending, operand⟩ := p
  cases operand with
  | none =>
    cases t with
    | op op =>
      cases op with
      | sub =>
        cases h
        exact ⟨rfl, rfl⟩
      | _ => cases h
    | rparen => cases h
    | _ =>
      cases h
      exact ⟨rfl, rfl⟩
  | some e =>
    cases t with
    | op op =>
      cases h
      exact ⟨rfl, rfl⟩
    | rparen =>
      change continueOperand pending e .rparen = .ok q at h
      rw [continueOperand] at h
      split at h
      · cases h
        exact ⟨rfl, rfl⟩
      · cases h
    | _ => cases h

/-- Tokens that are taken in follow each other. -/
lemma Progress.Leads.follows {p q : Progress} {ts : List Token} (h : Leads p ts q) :
    ts.IsChain Token.Follows := by
  induction ts generalizing p with
  | nil => exact .nil
  | cons t ts ih =>
    obtain ⟨next, first, rest⟩ := h.cons_cases
    cases ts with
    | nil => exact .singleton t
    | cons u ts =>
      obtain ⟨after, second, -⟩ := rest.cons_cases
      have hu := (push_cases second).1
      rw [(push_cases first).2] at hu
      exact .cons_cons hu (ih rest)

/-- The tokens of an expression follow each other. -/
lemma follows_of_ofTokens (h : ofTokens ts = .ok e) : ts.IsChain Token.Follows := by
  obtain ⟨p, run, -⟩ := leads_of_ofTokens h
  exact run.follows

/-- The names among the tokens of an expression are variables of it. -/
lemma Spelled.exists_variable {name} (h : Spelled level e ts) (hname : .ident name ∈ ts) :
    ∃ first, e.firstVariable? = some first := by
  induction h with
  | number => simp at hname
  | bool => simp at hname
  | var => exact ⟨_, rfl⟩
  | dice => simp at hname
  | bracket h ih => exact ih (by simpa using hname)
  | @unary _ op _ _ hlevel h ih =>
    refine ih ?_
    cases op <;> simpa [UnaryOp.token] using hname
  | @binary _ op left right ls rs hlevel hleft hright ihl ihr =>
    have hname : .ident name ∈ ls ∨ .ident name ∈ rs := by simpa using hname
    rw [firstVariable?]
    cases hv : left.firstVariable? with
    | some first => exact ⟨first, rfl⟩
    | none =>
      refine ihr (hname.resolve_left fun hl => ?_)
      obtain ⟨first, hfirst⟩ := ihl hl
      rw [hv] at hfirst
      cases hfirst

/-- Reading accepts exactly the printings of an expression. -/
lemma ofTokens_eq_ok_iff : ofTokens ts = .ok e ↔ Spelled 0 e ts := by
  constructor
  · intro h
    obtain ⟨p, run, finished⟩ := leads_of_ofTokens h
    exact ((Progress.Reads.due .nil).leads run).finish finished
  · exact Spelled.ofTokens

/--
An expression is read from its tokens with brackets only where the tiers and the grouping of
operators demand them. The token lists that it is read from are its printings: every other one has
these tokens in their order and more brackets.
-/
theorem ofTokens_grammar (e : Expr) :
    (∀ op : BinaryOp,
      op ∈ BinaryOp.tiers.getD op.level [] ∧ (op.groupsRight = true ↔ op = .pow)) ∧
    ofTokens e.tokens = .ok e ∧
      ∀ ts, (ofTokens ts = .ok e ↔ Spelled 0 e ts) ∧
        (ofTokens ts = .ok e →
          e.tokens.Sublist ts ∧ ts.filter (!·.isBracket) = e.tokens.filter (!·.isBracket)) := by
  refine ⟨fun op => ⟨op.mem_tiers, op.groupsRight_iff⟩,
    (Spelled.tokens.mono (Nat.zero_le _)).ofTokens, fun ts => ⟨ofTokens_eq_ok_iff, ?_⟩⟩
  intro h
  have spelled := ofTokens_eq_ok_iff.1 h
  have kept := spelled.sublist (Nat.zero_le _)
  rw [enclose_of_le (Nat.zero_le _)] at kept
  exact ⟨kept, spelled.filter_isBracket⟩

/-- The expression `a - (b - c) ^ d ^ -e`, and its reading with more brackets. -/
theorem ofTokens_grammar_powers :
    let e : Expr := .binary .sub (.var "a")
      (.binary .pow (.binary .sub (.var "b") (.var "c"))
        (.binary .pow (.var "d") (.unary .neg (.var "e"))))
    let few : List Token :=
      [.ident "a", .op .sub, .lparen, .ident "b", .op .sub, .ident "c", .rparen, .op .pow,
        .ident "d", .op .pow, .op .sub, .ident "e"]
    let many : List Token :=
      [.ident "a", .op .sub, .lparen, .lparen, .ident "b", .rparen, .op .sub, .ident "c", .rparen,
        .op .pow, .lparen, .ident "d", .op .pow, .lparen, .op .sub, .ident "e", .rparen, .rparen]
    e.tokens = few ∧ ofTokens few = .ok e ∧ ofTokens many = .ok e ∧ Spelled 0 e many ∧
      few.Sublist many := by
  intro e few many
  have hfew : e.tokens = few := by rfl
  have hmany : ofTokens many = .ok e := by rfl
  obtain ⟨-, hread, hall⟩ := ofTokens_grammar e
  rw [hfew] at hread hall
  exact ⟨hfew, hread, hmany, (hall many).1.1 hmany, ((hall many).2 hmany).1⟩

end Expr

end Gamebook
