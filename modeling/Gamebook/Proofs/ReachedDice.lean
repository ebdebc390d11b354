import Gamebook.Dice.Roll
import Gamebook.Proofs.ExactNumbers
import Gamebook.Proofs.Slices

/-!
# Dice that are reached

An expression is rolled from the left, and an operand that the one before it makes needless is
passed over with its dice. `Expr.Reaches` says which dice are reached, apart from how they are
drawn. A die shows one of its faces, and sides of 32 bits and a thousand dice at most have a total
that neither 64 bits nor a number lose anything of. Main definitions: `Throw`, `Expr.Reaches`,
`Expr.Fits`. Main statements: `Generator.die_range`, `Expr.fits_of_read`, `Expr.roll_reached`.
-/

namespace Gamebook

namespace Generator

variable {g : Generator} {sides count : Nat}

lemma next_lt {word : Nat} {rest} (h : g.next = (word, rest)) : word < 2 ^ 32 := by
  cases h
  exact (Keystream.word g.key g.drawn).toNat_lt

/-- The high half of a word times the sides is no more than the last face allows. -/
lemma high_lt {word : Nat} (hword : word < 2 ^ 32) (h : 0 < sides) :
    word * sides / Nat.pow 2 32 < sides :=
  Nat.div_lt_of_lt_mul (Nat.mul_lt_mul_of_pos_right hword h)

/-- Where a second word is drawn, the high half leaves a face to carry to. -/
lemma high_add_one_lt {word : Nat} (hword : word < 2 ^ 32)
    (hbias : Nat.pow 2 32 - sides < word * sides % Nat.pow 2 32) :
    word * sides / Nat.pow 2 32 + 1 < sides := by
  have hpow : Nat.pow 2 32 = 4294967296 := rfl
  -- the product stays below `sides · 2 ^ 32` by the sides at least
  have hmost : word * sides ≤ 4294967295 * sides := Nat.mul_le_mul_right sides (by omega)
  rw [hpow] at hbias ⊢
  generalize word * sides = product at hmost hbias ⊢
  omega

/-- A die shows one of its faces, also where a second word is drawn. -/
lemma die_range (h : 0 < sides) : 1 ≤ (g.die sides).1 ∧ (g.die sides).1 ≤ sides := by
  rcases hnext : g.next with ⟨word, rest⟩
  have hword := next_lt hnext
  have hhigh := high_lt hword h
  rw [die, hnext]
  dsimp only
  split
  · next hbias =>
    have hcarry := high_add_one_lt hword hbias
    generalize word * sides / Nat.pow 2 32 = high at hcarry
    dsimp only
    split <;> omega
  · generalize word * sides / Nat.pow 2 32 = high at hhigh
    dsimp only
    omega

lemma length_dice : (g.dice sides count).1.length = count := by
  induction count generalizing g with
  | zero => rfl
  | succ count ih => exact congrArg (· + 1) ih

lemma dice_range (h : 0 < sides) : ∀ face ∈ (g.dice sides count).1, 1 ≤ face ∧ face ≤ sides := by
  induction count generalizing g with
  | zero => exact List.forall_mem_nil _
  | succ count ih => exact List.forall_mem_cons.2 ⟨die_range h, ih⟩

end Generator

namespace Group

variable {group : Group}

/-- What is drawn is at most a thousand dice with sides. -/
lemma draw_cases {count sides : Nat} {g g' : Generator}
    (h : draw count sides g = (.ok group, g')) :
    count ≤ maxDice ∧ sides ≠ 0 ∧
      ∃ faces, g.dice sides count = (faces, g') ∧ group = ⟨sides, faces⟩ := by
  rw [draw] at h
  split at h
  · cases h
  · next hcount =>
    split at h
    · cases h
    · next hsides =>
      rcases hdice : g.dice sides count with ⟨faces, rest⟩
      rw [hdice] at h
      cases h
      exact ⟨Nat.le_of_not_lt hcount, hsides, faces, rfl, rfl⟩

/-- The sum of the faces, as words of 64 bits. -/
def wordTotal (group : Group) : UInt64 :=
  group.faces.foldl (· + .ofNat ·) 0

/-- The sum of words is the sum of the faces, but for what 64 bits do not hold. -/
lemma toNat_foldl (faces : List Nat) (sum : UInt64) :
    (faces.foldl (· + .ofNat ·) sum).toNat = (sum.toNat + faces.foldr (· + ·) 0) % 2 ^ 64 := by
  induction faces generalizing sum with
  | nil => exact (Nat.mod_eq_of_lt sum.toNat_lt).symm
  | cons face faces ih =>
    rw [List.foldl_cons, List.foldr_cons, ih, UInt64.toNat_add, UInt64.toNat_ofNat']
    omega

lemma toNat_wordTotal (h : group.total < 2 ^ 64) : group.wordTotal.toNat = group.total := by
  rw [wordTotal, toNat_foldl, UInt64.toNat_zero, Nat.zero_add]
  exact Nat.mod_eq_of_lt h

lemma total_le {sides : Nat} {faces : List Nat} (h : ∀ face ∈ faces, face ≤ sides) :
    total ⟨sides, faces⟩ ≤ faces.length * sides := by
  induction faces with
  | nil => exact Nat.zero_le _
  | cons face faces ih =>
    obtain ⟨hface, hfaces⟩ := List.forall_mem_cons.1 h
    rw [List.length_cons, Nat.succ_mul, Nat.add_comm _ sides]
    exact Nat.add_le_add hface (ih hfaces)

end Group

lemma Value.finite_cases {x : Float} {v : Value} (h : finite x = .ok v) :
    x.isFinite = true ∧ v = .number x := by
  rw [finite] at h
  split at h
  · next hx =>
    cases h
    exact ⟨hx, rfl⟩
  · cases h

/-- Dice of an expression and the faces that they show. -/
structure Throw where
  /-- How many dice there are. -/
  count : Nat
  /-- How many sides each die has. -/
  sides : Nat
  /-- The faces in order. -/
  faces : List Nat

namespace Throw

/-- The dice as an expression has them. -/
def dice (t : Throw) : Nat × Nat :=
  (t.count, t.sides)

/-- The group that the dice are kept as. -/
def group (t : Throw) : Group :=
  ⟨t.sides, t.faces⟩

/-- What dice are when they are thrown, and that nothing is lost of their total. -/
structure Sound (t : Throw) : Prop where
  /-- There are a thousand dice at most. -/
  count_le : t.count ≤ 1000
  /-- Each die has a side. -/
  sides_pos : 1 ≤ t.sides
  /-- Each die shows a face. -/
  length : t.faces.length = t.count
  /-- The faces are faces of the dice. -/
  range : ∀ face ∈ t.faces, 1 ≤ face ∧ face ≤ t.sides
  /-- The total is small. -/
  total_lt : t.group.total < 2 ^ 53
  /-- The total is not too large for 64 bits. -/
  words : t.group.wordTotal.toNat = t.group.total
  /-- The number that counts in the expression is the total. -/
  counted : Number.integer? (.ofNat t.group.total) = some (t.group.total : Int)

/-- Each of some throws is drawn from what the one before it leaves of the keystream. -/
inductive Drawn : List Throw → Generator → Generator → Prop where
  | nil {g} : Drawn [] g g
  | cons {t : Throw} {ts} {g g₁ g₂ : Generator} :
    g.dice t.sides t.count = (t.faces, g₁) → Drawn ts g₁ g₂ → Drawn (t :: ts) g g₂

variable {t : Throw} {ts us : List Throw} {g g₁ g₂ : Generator}

lemma Drawn.append (h : Drawn ts g g₁) (hu : Drawn us g₁ g₂) : Drawn (ts ++ us) g g₂ := by
  induction h with
  | nil => exact hu
  | cons hdice _ ih => exact .cons hdice (ih hu)

/-- Dice of 32 bits that are drawn. -/
lemma sound_of_dice (hcount : t.count ≤ maxDice) (hpos : t.sides ≠ 0) (hsides : t.sides < 2 ^ 32)
    (h : g.dice t.sides t.count = (t.faces, g₁)) : t.Sound := by
  have hfaces : t.faces = (g.dice t.sides t.count).1 := congrArg Prod.fst h.symm
  have length : t.faces.length = t.count := hfaces ▸ Generator.length_dice
  have range : ∀ face ∈ t.faces, 1 ≤ face ∧ face ≤ t.sides :=
    hfaces ▸ Generator.dice_range (Nat.pos_of_ne_zero hpos)
  have total_lt : t.group.total < 2 ^ 53 := by
    calc
      t.group.total ≤ t.faces.length * t.sides := Group.total_le fun _ hface => (range _ hface).2
      _ ≤ 1000 * 2 ^ 32 := Nat.mul_le_mul (length.trans_le hcount) (Nat.le_of_lt hsides)
      _ < 2 ^ 53 := by decide
  exact {
    count_le := hcount
    sides_pos := Nat.pos_of_ne_zero hpos
    length := length
    range := range
    total_lt := total_lt
    words := Group.toNat_wordTotal (Nat.lt_trans total_lt (by decide))
    counted := Number.integer?_ofNat total_lt }

end Throw

namespace Token

/-- Whether a token is dice. -/
def isDice : Token → Bool
  | dice _ _ => true
  | _ => false

lemma Slice.sides_lt {s : Slice} {count sides} (h : s.token = .dice count sides) :
    sides < 2 ^ 32 := by
  obtain ⟨text, token, rule, longest, reads⟩ := s
  cases h
  cases rule with
  | dice =>
    obtain ⟨_, _, ht, hlt⟩ := Rule.token?_dice reads
    cases ht
    exact hlt
  | number =>
    obtain ⟨x, -, hx⟩ := Option.map_eq_some_iff.1 reads
    cases hx
  | fixed text token =>
    cases reads
    have hfixed := Rule.of_fixedAll (p := fun _ token => !token.isDice) (by decide)
      (longest?_some longest).1
    cases hfixed
  | ident => cases reads

end Token

namespace Expr

/-- All dice of an expression from the left, whether they are reached or not. -/
def allDice : Expr → List (Nat × Nat)
  | dice count sides => [(count, sides)]
  | unary _ operand => operand.allDice
  | binary _ left right => left.allDice ++ right.allDice
  | _ => []

/-- Whether the sides of all dice are numbers of 32 bits. -/
def Fits (e : Expr) : Prop :=
  ∀ d ∈ e.allDice, d.2 < 2 ^ 32

/-- The dice of an expression are tokens of any text for it. -/
lemma Spelled.mem_allDice {level e ts d} (h : Spelled level e ts) (hd : d ∈ e.allDice) :
    Token.dice d.1 d.2 ∈ ts := by
  induction h with
  | number | bool | var => cases hd
  | dice =>
    cases List.mem_singleton.1 hd
    exact List.mem_cons_self
  | bracket _ ih => exact List.mem_append_left _ (List.mem_cons_of_mem _ (ih hd))
  | unary _ _ ih => exact List.mem_cons_of_mem _ (ih hd)
  | binary _ _ _ ihl ihr =>
    obtain hd | hd := List.mem_append.1 hd
    · exact List.mem_append_left _ (ihl hd)
    · exact List.mem_append_right _ (List.mem_cons_of_mem _ (ihr hd))

/-- The dice of an expression that is read from a text have sides of 32 bits. -/
lemma fits_of_read {text : String} {e : Expr} (h : read text = .ok e) : e.Fits := by
  intro d hd
  rw [read] at h
  split at h
  · cases h
  · next ls hscan =>
    split at h
    · cases h
    · next e' htokens =>
      cases h
      obtain ⟨ps, cut⟩ := Token.exists_cut hscan
      have hmem := (ofTokens_eq_ok_iff.1 htokens).mem_allDice hd
      rw [cut.token_eq] at hmem
      obtain ⟨p, -, hp⟩ := List.mem_map.1 hmem
      exact p.slice.sides_lt hp

/--
The dice that are reached in an expression when they show some faces, and the value it then has.
Dice count as their total. The right operand is not reached where the left one decides the value.
-/
inductive Reaches : Expr → List Throw → Value → Prop where
  | number {x} : x.isFinite = true → Reaches (number x) [] (.number x)
  | bool {b} : Reaches (bool b) [] (.bool b)
  | dice {t : Throw} : Reaches (dice t.count t.sides) [t] (.number (.ofNat t.group.total))
  | unary {op : UnaryOp} {operand ts v w} :
    Reaches operand ts v → op.apply v = .ok w → Reaches (unary op operand) ts w
  | skip {op : BinaryOp} {left right ts v w} :
    Reaches left ts v → op.shortcut? v = some w → Reaches (binary op left right) ts w
  | binary {op : BinaryOp} {left right ts us v w x} :
    Reaches left ts v → op.shortcut? v = none → Reaches right us w → op.apply v w = .ok x →
    Reaches (binary op left right) (ts ++ us) x

/-- The dice that are reached are some of all dice, in the same order. -/
lemma Reaches.sublist {e ts v} (h : Reaches e ts v) : (ts.map Throw.dice).Sublist e.allDice := by
  induction h with
  | number | bool => exact .refl _
  | dice => exact .refl _
  | unary _ _ ih => exact ih
  | skip _ _ ih => exact ih.trans (List.sublist_append_left _ _)
  | binary _ _ _ _ ihl ihr =>
    rw [List.map_append]
    exact ihl.append ihr

section Roll

variable {e : Expr} {g g' : Generator} {rolled : Rolled}

lemma exists_of_map {r : Except Fault Value} {groups}
    (h : (r.map (Rolled.mk · groups), g) = (.ok rolled, g')) :
    ∃ v, r = .ok v ∧ rolled = ⟨v, groups⟩ ∧ g = g' := by
  cases r with
  | error fault => cases h
  | ok v =>
    cases h
    exact ⟨v, rfl, rfl, rfl⟩

/-- The groups are drawn for the dice that are reached. -/
lemma reaches_of_rollValue (h : e.rollValue g = (.ok rolled, g')) :
    ∃ ts, rolled.groups = ts.map Throw.group ∧ e.Reaches ts rolled.value ∧
      Throw.Drawn ts g g' ∧ (e.Fits → ∀ t ∈ ts, t.Sound) := by
  induction e generalizing g g' rolled with
  | number x =>
    obtain ⟨v, hv, rfl, rfl⟩ := exists_of_map h
    obtain ⟨hx, rfl⟩ := Value.finite_cases hv
    exact ⟨[], rfl, .number hx, .nil, fun _ => List.forall_mem_nil _⟩
  | bool b =>
    cases h
    exact ⟨[], rfl, .bool, .nil, fun _ => List.forall_mem_nil _⟩
  | var name => cases h
  | dice count sides =>
    rw [rollValue] at h
    split at h
    · cases h
    · next group rest hdraw =>
      cases h
      obtain ⟨hcount, hsides, faces, hdice, rfl⟩ := Group.draw_cases hdraw
      refine ⟨[⟨count, sides, faces⟩], rfl, @Reaches.dice ⟨count, sides, faces⟩, .cons hdice .nil,
        fun hfits => List.forall_mem_singleton.2 ?_⟩
      exact Throw.sound_of_dice hcount hsides (hfits _ List.mem_cons_self) hdice
  | unary op operand ih =>
    rw [rollValue] at h
    split at h
    · cases h
    · next r rest hoperand =>
      obtain ⟨v, hv, rfl, rfl⟩ := exists_of_map h
      obtain ⟨ts, hgroups, reaches, drawn, sound⟩ := ih hoperand
      exact ⟨ts, hgroups, .unary reaches hv, drawn, sound⟩
  | binary op left right ihl ihr =>
    rw [rollValue] at h
    split at h
    · cases h
    next a rest hleft =>
    obtain ⟨ts, hts, reachesLeft, drawnLeft, soundLeft⟩ := ihl hleft
    split at h
    · next v hv =>
      cases h
      exact ⟨ts, hts, .skip reachesLeft hv, drawnLeft,
        fun hfits => soundLeft (List.forall_mem_append.1 hfits).1⟩
    next hnone =>
    split at h
    · cases h
    next b rest' hright =>
    obtain ⟨v, hv, rfl, rfl⟩ := exists_of_map h
    obtain ⟨us, hus, reachesRight, drawnRight, soundRight⟩ := ihr hright
    refine ⟨ts ++ us, ?_, .binary reachesLeft hnone reachesRight hv, drawnLeft.append drawnRight,
      fun hfits => ?_⟩
    · rw [List.map_append, ← hts, ← hus]
    · obtain ⟨fitsLeft, fitsRight⟩ := List.forall_mem_append.1 hfits
      exact List.forall_mem_append.2 ⟨soundLeft fitsLeft, soundRight fitsRight⟩

/--
Where an expression is rolled, the groups are those of the dice that are reached, in their order,
and the value is the one that the expression has with their totals. The dice are drawn one after the
other, each shows one of its faces, and nothing is lost of a total.
-/
theorem roll_reached (e : Expr) (g g' : Generator) (rolled : Rolled) (hfits : e.Fits)
    (h : e.roll g = (.ok rolled, g')) :
    ∃ ts : List Throw, rolled.groups = ts.map Throw.group ∧ e.Reaches ts rolled.value ∧
      (ts.map Throw.dice).Sublist e.allDice ∧ Throw.Drawn ts g g' ∧ ∀ t ∈ ts, t.Sound := by
  rw [roll] at h
  split at h
  · cases h
  · obtain ⟨ts, hgroups, reaches, drawn, sound⟩ := reaches_of_rollValue h
    exact ⟨ts, hgroups, reaches, reaches.sublist, drawn, sound hfits⟩

/-- A gamble that two dice win before the third one is reached. -/
def gamble : Expr :=
  .binary .or (.binary .gt (.binary .add (.dice 2 6) (.number 1)) (.number 2)) (.dice 1 20)

/-- The two dice are drawn, and the third one is not. -/
theorem roll_reached_gamble :
    let g (drawn : Nat) : Generator := ⟨Keystream.keyOfSeed 7, drawn⟩
    let rolled : Rolled := ⟨.bool true, [⟨6, [3, 1]⟩]⟩
    read "2d6 + 1 > 2 or d20" = .ok gamble ∧ gamble.Fits ∧
      gamble.roll (g 0) = (.ok rolled, g 2) ∧
      ∃ ts : List Throw, rolled.groups = ts.map Throw.group ∧ gamble.Reaches ts rolled.value ∧
        (ts.map Throw.dice).Sublist [(2, 6), (1, 20)] ∧ Throw.Drawn ts (g 0) (g 2) ∧
        ∀ t ∈ ts, t.Sound := by
  intro g rolled
  have hread : read "2d6 + 1 > 2 or d20" = .ok gamble := by decide +kernel
  have hfits : gamble.Fits := fits_of_read hread
  have hroll : gamble.roll (g 0) = (.ok rolled, g 2) := by decide +kernel
  exact ⟨hread, hfits, hroll, roll_reached gamble (g 0) (g 2) rolled hfits hroll⟩

end Roll

end Expr

end Gamebook
