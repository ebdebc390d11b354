import Gamebook.Proofs.Integers
import Gamebook.Proofs.RelaxedText

/-!
# Numbers with a point or an exponent

A number that is written with a point or with an exponent is read as the same number, be it alone or
by the relaxed reader. Main definition: `Number.Literal`. Main statements:
`Number.Literal.exists_fractionText`, `Json.Relaxed.legibleLeaf_fraction`.
-/

namespace Gamebook

namespace Number

/-- The parts of a decimal that is written with a point or with an exponent. -/
structure Literal where
  /-- The digits before the point. -/
  whole : List Char
  /-- The digits after the point; there is no point if there are none. -/
  places : List Char
  /-- The sign and the amount of the exponent, if there is one. -/
  power : Option (Bool × Nat)
  /-- A number starts with a digit, and with a zero only if no digit follows before the point. -/
  whole_cons : ∃ c cs, whole = c :: cs ∧ c.isDigit = true ∧ (c = '0' → cs = [])
  /-- There is nothing but digits before the point. -/
  whole_digits : ∀ c ∈ whole, c.isDigit = true
  /-- There is nothing but digits after the point. -/
  places_digits : ∀ c ∈ places, c.isDigit = true
  /-- There is a point or an exponent. -/
  fractional : places ≠ [] ∨ power.isSome = true

/-- A written exponent. -/
def powerText : Option (Bool × Nat) → List Char
  | none => []
  | some (negative, n) => 'e' :: (if negative then '-' else '+') :: natText n

/-- The value of an exponent; none is zero. -/
def powerValue : Option (Bool × Nat) → Int
  | none => 0
  | some (negative, n) => if negative then -(n : Int) else n

namespace Literal

variable {l : Literal} {power : Option (Bool × Nat)}

/-- What comes after the digits before the point. -/
def rest (l : Literal) : List Char :=
  if l.places = [] then powerText l.power else '.' :: (l.places ++ powerText l.power)

/-- The text of the literal. -/
def text (l : Literal) : List Char :=
  l.whole ++ l.rest

/-- The decimal that is spelled. -/
def decimal (l : Literal) : Decimal :=
  ⟨digitsValue (l.whole ++ l.places), powerValue l.power - l.places.length⟩

/-- A literal starts with a digit. -/
lemma text_cons : ∃ c cs, l.text = c :: cs ∧ c.isDigit = true := by
  obtain ⟨c, cs, hwhole, hc, -⟩ := l.whole_cons
  exact ⟨c, cs ++ l.rest, by rw [text, hwhole]; rfl, hc⟩

/-- Digits end before an exponent. -/
lemma takeWhile_powerText {cs : List Char} (h : ∀ c ∈ cs, c.isDigit = true) :
    (cs ++ powerText power).takeWhile Char.isDigit = cs ∧
      (cs ++ powerText power).dropWhile Char.isDigit = powerText power := by
  have stop : (powerText power).takeWhile Char.isDigit = [] ∧
      (powerText power).dropWhile Char.isDigit = powerText power := by
    cases power <;> exact ⟨rfl, rfl⟩
  rw [List.takeWhile_append_of_pos h, List.dropWhile_append_of_pos h, stop.1, stop.2, List.append_nil]
  exact ⟨rfl, rfl⟩

/-- Digits end before a point and before an exponent. -/
lemma takeWhile_text :
    l.text.takeWhile Char.isDigit = l.whole ∧ l.text.dropWhile Char.isDigit = l.rest := by
  rw [text, rest]
  split
  · exact takeWhile_powerText l.whole_digits
  · rw [List.takeWhile_append_of_pos l.whole_digits, List.dropWhile_append_of_pos l.whole_digits]
    exact ⟨List.append_nil _, rfl⟩

lemma exponent?_powerText : exponent? (powerText power) = some (powerValue power) := by
  cases power with
  | none => rfl
  | some power =>
    obtain ⟨negative, n⟩ := power
    have digits : natText n ≠ [] ∧ (natText n).all Char.isDigit = true :=
      ⟨Nat.toDigits_ne_nil, List.all_eq_true.2 fun _ => isDigit_of_mem_natText⟩
    cases negative with
    | false =>
      change (if natText n ≠ [] ∧ (natText n).all Char.isDigit = true then _ else _) = _
      rw [if_pos digits, digitsValue_natText]
      rfl
    | true =>
      change (if natText n ≠ [] ∧ (natText n).all Char.isDigit = true then _ else _) = _
      rw [if_pos digits, digitsValue_natText]
      rfl

/-- A literal is read as the decimal that it spells. -/
lemma decimal?_text : decimal? l.text = some l.decimal := by
  obtain ⟨c, cs, hwhole, -⟩ := l.whole_cons
  have filled : l.whole ++ l.places ≠ [] := by
    rw [hwhole]
    exact List.cons_ne_nil _ _
  rw [decimal?, takeWhile_text.1, takeWhile_text.2, rest]
  by_cases hplaces : l.places = []
  · rw [if_pos hplaces]
    rw [hplaces, List.append_nil] at filled
    have read := @exponent?_powerText l.power
    have pointless (rest : List Char) : powerText l.power ≠ '.' :: rest := by
      cases l.power <;> simp [powerText]
    rw [decimal, hplaces]
    generalize powerText l.power = cs at read pointless
    split
    next h =>
      split at h
      · exact absurd rfl (pointless _)
      · cases h
        rw [if_neg (by rwa [List.append_nil]), read]
        rfl
  · rw [if_neg hplaces]
    simp only [takeWhile_powerText l.places_digits, if_neg filled, exponent?_powerText]
    rfl

/-- A point or an exponent comes after the digits before the point. -/
lemma rest_cons : ∃ c cs, l.rest = c :: cs ∧ (c = '.' ∨ c = 'e') := by
  rw [rest]
  split
  · next hplaces =>
    obtain ⟨power, hpower⟩ := Option.isSome_iff_exists.1 (l.fractional.resolve_left (absurd hplaces))
    rw [hpower]
    exact ⟨_, _, rfl, .inr rfl⟩
  · exact ⟨_, _, rfl, .inl rfl⟩

section Spelled

variable {d : Decimal}

lemma digitsValue_append {cs ds : List Char} :
    digitsValue (cs ++ ds) = digitsValue cs * 10 ^ ds.length + digitsValue ds := by
  induction ds using List.reverseRecOn with
  | nil => simp [digitsValue]
  | append_singleton ds d ih =>
    have last (es : List Char) : digitsValue (es ++ [d]) = digitsValue es * 10 + digitValue d := by
      rw [digitsValue, List.foldl_append]
      rfl
    rw [← List.append_assoc, last, last, ih, List.length_append, List.length_singleton, pow_succ]
    ring

lemma digitsValue_replicate {n : Nat} : digitsValue (List.replicate n '0') = 0 := by
  induction n with
  | zero => rfl
  | succ n ih =>
    rw [List.replicate_succ', digitsValue_append, ih, Nat.zero_mul]
    rfl

/-- The first digit of a positive number is no zero. -/
lemma natText_pos {n : Nat} (hn : 0 < n) :
    ∃ c cs, natText n = c :: cs ∧ c.isDigit = true ∧ c ≠ '0' := by
  obtain ⟨c, cs, h, hc, hzero⟩ := @natText_cons n
  refine ⟨c, cs, h, hc, ?_⟩
  rintro rfl
  rw [hzero rfl] at h
  have := @digitsValue_natText n
  rw [h] at this
  exact hn.ne this

lemma isDigit_of_mem_replicate {n : Nat} {c} (h : c ∈ List.replicate n '0') : c.isDigit = true := by
  rw [List.eq_of_mem_replicate h]
  rfl

/-- The value of a literal whose digits spell a number. -/
lemma value_decimal {n : Nat} {e : Int} (hdigits : digitsValue (l.whole ++ l.places) = n)
    (he : powerValue l.power - l.places.length = e) : l.decimal.value = n * 10 ^ e := by
  rw [decimal, hdigits, he, Decimal.value]

lemma isDigit_of_mem_text {c} (h : c ∈ d.text) : c.isDigit = true :=
  isDigit_of_mem_natText h

lemma digitsValue_text : digitsValue d.text = d.digits :=
  digitsValue_natText

/-- A whole number with its zeros and a point is a literal. -/
lemma exists_whole (hd : 0 < d.digits) (h : 0 ≤ d.exponent) :
    ∃ l : Literal, d.text ++ List.replicate d.exponent.toNat '0' ++ ['.', '0'] = l.text ∧
      l.decimal.value = d.value := by
  obtain ⟨c, cs, htext, hc, hne⟩ := natText_pos hd
  refine ⟨⟨d.text ++ List.replicate d.exponent.toNat '0', ['0'], none, ?_, ?_, ?_, ?_⟩, rfl, ?_⟩
  · rw [Decimal.text, htext]
    exact ⟨c, _, rfl, hc, fun h => absurd h hne⟩
  · exact fun c hc => (List.mem_append.1 hc).elim isDigit_of_mem_text isDigit_of_mem_replicate
  · exact List.forall_mem_singleton.2 rfl
  · exact .inl (List.cons_ne_nil _ _)
  · refine (value_decimal (n := d.digits * 10 ^ (d.exponent.toNat + 1)) (e := -1) ?_ rfl).trans ?_
    · rw [digitsValue_append, digitsValue_append, digitsValue_replicate, digitsValue_text,
        List.length_replicate]
      change (d.digits * 10 ^ d.exponent.toNat + 0) * 10 ^ 1 + 0 = _
      ring
    · obtain ⟨k, hk⟩ := Int.eq_ofNat_of_zero_le h
      rw [Decimal.value, hk, Int.toNat_natCast, pow_succ, zpow_natCast]
      push_cast
      rw [mul_assoc, mul_assoc, zpow_neg_one, mul_inv_cancel₀ (by norm_num), mul_one]

/-- Digits with a point between them are a literal. -/
lemma exists_divided (hd : 0 < d.digits) (h : d.exponent < 0)
    (hplaces : (-d.exponent).toNat < d.text.length) :
    ∃ l : Literal, d.text.take (d.text.length - (-d.exponent).toNat) ++
        '.' :: d.text.drop (d.text.length - (-d.exponent).toNat) = l.text ∧
      l.decimal.value = d.value := by
  obtain ⟨c, cs, htext, hc, hne⟩ := natText_pos hd
  have some : d.text.drop (d.text.length - (-d.exponent).toNat) ≠ [] := by
    rw [ne_eq, List.drop_eq_nil_iff]
    omega
  refine ⟨⟨d.text.take (d.text.length - (-d.exponent).toNat),
    d.text.drop (d.text.length - (-d.exponent).toNat), none, ?_, ?_, ?_, .inl some⟩, ?_, ?_⟩
  · obtain ⟨k, hk⟩ := Nat.exists_eq_succ_of_ne_zero
      (by omega : d.text.length - (-d.exponent).toNat ≠ 0)
    rw [hk, Decimal.text, htext]
    exact ⟨c, _, rfl, hc, fun h => absurd h hne⟩
  · exact fun c hc => isDigit_of_mem_text (List.mem_of_mem_take hc)
  · exact fun c hc => isDigit_of_mem_text (List.mem_of_mem_drop hc)
  · rw [text, rest, if_neg some]
    change _ = _ ++ '.' :: (_ ++ [])
    rw [List.append_nil]
  · refine value_decimal ?_ ?_
    · rw [List.take_append_drop, digitsValue_text]
    · rw [List.length_drop]
      change (0 : Int) - _ = _
      omega

/-- Digits behind a point and zeros are a literal. -/
lemma exists_below (h : d.exponent < 0) (hplaces : d.text.length ≤ (-d.exponent).toNat) :
    ∃ l : Literal,
      '0' :: '.' :: List.replicate ((-d.exponent).toNat - d.text.length) '0' ++ d.text = l.text ∧
      l.decimal.value = d.value := by
  have some : List.replicate ((-d.exponent).toNat - d.text.length) '0' ++ d.text ≠ [] :=
    List.append_ne_nil_of_right_ne_nil _ Nat.toDigits_ne_nil
  refine ⟨⟨['0'], List.replicate ((-d.exponent).toNat - d.text.length) '0' ++ d.text, none,
    ⟨'0', [], rfl, rfl, fun _ => rfl⟩, List.forall_mem_singleton.2 rfl, ?_, .inl some⟩, ?_, ?_⟩
  · exact fun c hc => (List.mem_append.1 hc).elim isDigit_of_mem_replicate isDigit_of_mem_text
  · rw [text, rest, if_neg some]
    exact congrArg ('0' :: '.' :: ·) (List.append_nil _).symm
  · refine value_decimal ?_ ?_
    · rw [digitsValue_append, digitsValue_append, digitsValue_replicate, digitsValue_text,
        Nat.zero_mul, Nat.zero_add]
      exact (congrArg (· + d.digits) (Nat.zero_mul _)).trans (Nat.zero_add _)
    · rw [List.length_append, List.length_replicate]
      change (0 : Int) - _ = _
      omega

/-- A decimal without an exponent is a literal with its value. -/
lemma exists_positional (hd : 0 < d.digits) :
    ∃ l : Literal, d.positional true = l.text ∧ l.decimal.value = d.value := by
  rw [Decimal.positional]
  split
  · next h => exact exists_whole hd h
  · next h =>
    simp only
    split
    · next hplaces => exact exists_divided hd (Int.not_le.1 h) hplaces
    · next hplaces => exact exists_below (Int.not_le.1 h) (Nat.not_lt.1 hplaces)

/-- A decimal with an exponent is a literal with its value. -/
lemma exists_scientific : ∃ l : Literal, d.scientific = l.text ∧ l.decimal.value = d.value := by
  have digits {c} (h : c ∈ d.text) : c.isDigit = true := isDigit_of_mem_text h
  have value := @digitsValue_text d
  have amount : powerValue (some (decide (d.magnitude < 0), d.magnitude.natAbs)) = d.magnitude := by
    rw [powerValue]
    split
    · next h =>
      have := of_decide_eq_true h
      omega
    · next h =>
      have := of_decide_eq_false (Bool.eq_false_iff.2 h)
      omega
  -- the first digit is the whole part, and the others are the places
  cases htext : d.text with
  | nil => exact absurd htext Nat.toDigits_ne_nil
  | cons c cs =>
    rw [htext] at digits value
    refine ⟨⟨[c], cs, some (decide (d.magnitude < 0), d.magnitude.natAbs), ?_, ?_, ?_, .inr rfl⟩, ?_,
      ?_⟩
    · exact ⟨c, [], rfl, digits List.mem_cons_self, fun _ => rfl⟩
    · exact List.forall_mem_singleton.2 (digits List.mem_cons_self)
    · exact fun d hd => digits (List.mem_cons_of_mem _ hd)
    · have sign : (if d.magnitude < 0 then '-' else '+') =
          if decide (d.magnitude < 0) = true then '-' else '+' := by
        simp only [decide_eq_true_iff]
      rw [Decimal.scientific, htext, sign]
      cases cs <;> rfl
    · refine value_decimal value ?_
      rw [amount, Decimal.magnitude, htext, List.length_cons]
      push_cast
      omega

/-- A number that is no small integer is written as a literal, which is read as the number. -/
lemma exists_fractionText {x : Float} (hx : x.isFinite = true) (h : smallInteger? x = none) :
    ∃ (negative : Bool) (l : Literal), fractionText x = signText negative ++ l.text ∧
      read? (signText negative ++ l.text) = some x := by
  obtain ⟨negative, m, q, e, hm⟩ := ofFloat_of_smallInteger? hx h
  have rounds : Rounds m q (shortest .even m q).value :=
    rounds_shortest (legal_of_unpack (unpack_of_ofFloat e hm))
  rw [fractionText, e]
  simp only [if_neg hm.ne']
  generalize shortest .even m q = d at rounds
  have hd : 0 < d.digits :=
    Nat.pos_of_ne_zero (rounds.ne_zero (legal_of_unpack (unpack_of_ofFloat e hm)))
  have parts : ∃ l : Literal,
      (if -5 ≤ d.magnitude ∧ d.magnitude < 16 then d.positional true else d.scientific) = l.text ∧
        l.decimal.value = d.value := by
    split
    · exact exists_positional hd
    · exact exists_scientific
  obtain ⟨l, htext, hvalue⟩ := parts
  refine ⟨negative, l, by rw [htext], ?_⟩
  rw [← hvalue] at rounds
  have signed := signed_toFloat_of_rounds e hm rounds
  obtain ⟨c, cs, hl, hc⟩ := @l.text_cons
  obtain ⟨plain, minus⟩ := @read?_cons c cs hc
  rw [← hl, decimal?_text] at plain minus
  cases negative with
  | false => exact plain.trans (congrArg some signed)
  | true => exact minus.trans (congrArg some signed)

end Spelled

end Literal

end Number

namespace Json.Relaxed

open Gamebook.Number (Literal powerText)

variable {l : Literal} {power : Option (Bool × Nat)} {rest : List Char}

lemma Ends.dropWhile (hr : Ends rest) : rest.dropWhile Char.isDigit = rest := by
  obtain ⟨cs, rfl | rfl⟩ := hr <;> rfl

/-- An exponent is skipped up to what comes after a field. -/
lemma skipExponent_powerText (hr : Ends rest) : skipExponent (powerText power ++ rest) = rest := by
  cases power with
  | none => obtain ⟨cs, rfl | rfl⟩ := hr <;> rfl
  | some power =>
    obtain ⟨negative, n⟩ := power
    obtain ⟨c, cs, hn, hc, -⟩ := @Number.natText_cons n
    have digits : (Number.natText n ++ rest).dropWhile Char.isDigit = rest := by
      rw [List.dropWhile_append_of_pos fun _ => Number.isDigit_of_mem_natText, hr.dropWhile]
    have starts : ((Number.natText n ++ rest).head?.map Char.isDigit).getD false = true := by
      rw [hn]
      exact hc
    have skip : skipExponent (powerText (some (negative, n)) ++ rest) =
        if ((Number.natText n ++ rest).head?.map Char.isDigit).getD false = true then
          (Number.natText n ++ rest).dropWhile Char.isDigit
        else powerText (some (negative, n)) ++ rest := by
      cases negative <;> rfl
    rw [skip, if_pos starts, digits]

lemma skipWhole?_text : skipWhole? (l.text ++ rest) = some (l.rest ++ rest) := by
  obtain ⟨c, cs, hwhole, hc, hzero⟩ := l.whole_cons
  rw [Literal.text, hwhole, List.append_assoc, List.cons_append, skipWhole?]
  by_cases h : c = '0'
  · rw [if_pos h, hzero h, List.nil_append]
  · have digits : ∀ d ∈ cs, d.isDigit = true := fun d hd =>
      l.whole_digits d (hwhole ▸ List.mem_cons_of_mem _ hd)
    rw [if_neg h, if_pos hc, List.dropWhile_append_of_pos digits]
    obtain ⟨d, ds, hrest, rfl | rfl⟩ := @l.rest_cons
    · rw [hrest]
      rfl
    · rw [hrest]
      rfl

/-- A literal is skipped up to what comes after a field. -/
lemma skipDecimal?_text (hr : Ends rest) : skipDecimal? (l.text ++ rest) = some rest := by
  have stop : (powerText l.power ++ rest).dropWhile Char.isDigit = powerText l.power ++ rest := by
    cases l.power with
    | none => exact hr.dropWhile
    | some power => rfl
  unfold skipDecimal?
  rw [skipWhole?_text, Literal.rest]
  by_cases hplaces : l.places = []
  · rw [if_pos hplaces]
    obtain ⟨⟨negative, n⟩, hpower⟩ :=
      Option.isSome_iff_exists.1 (l.fractional.resolve_left (absurd hplaces))
    have skipped := @skipExponent_powerText l.power rest hr
    rw [hpower] at skipped ⊢
    exact congrArg some skipped
  · rw [if_neg hplaces, List.cons_append, List.append_assoc]
    simp only [List.dropWhile_append_of_pos l.places_digits, stop, skipExponent_powerText hr]

lemma skipUnsigned?_text (hr : Ends rest) : skipUnsigned? (l.text ++ rest) = some rest := by
  obtain ⟨c, cs, hwhole, -, hzero⟩ := l.whole_cons
  obtain ⟨d, ds, hrest, hd⟩ := @l.rest_cons
  unfold skipUnsigned?
  simp only [skipDecimal?_text hr]
  split
  · next x e es h =>
    rw [Literal.text, hwhole, List.append_assoc, List.cons_append, List.cons.injEq] at h
    rw [hzero h.1, List.nil_append, hrest, List.cons_append, List.cons.injEq] at h
    have hx : ¬((x = 'x' ∨ x = 'X') ∧ isHexDigit e = true) := by
      rw [← h.2.1]
      rintro ⟨rfl | rfl, -⟩
      · exact hd.elim (by decide) (by decide)
      · exact hd.elim (by decide) (by decide)
    rw [if_neg hx]
    rfl
  · rfl

/-- The sign of a literal is split from it. -/
lemma splitSign_text {negative : Bool} :
    Number.splitSign (Number.signText negative ++ (l.text ++ rest)) = (negative, l.text ++ rest) := by
  obtain ⟨c, cs, htext, hc⟩ := @l.text_cons
  cases negative with
  | true => rfl
  | false =>
    rw [htext]
    exact Number.splitSign_cons hc

/-- A literal is read up to what comes after a field. -/
lemma number?_text {negative : Bool} (hr : Ends rest) :
    number? (Number.signText negative ++ l.text ++ rest) =
      some (Number.signText negative ++ l.text, rest) := by
  rw [number?, List.append_assoc, splitSign_text]
  simp only [skipUnsigned?_text hr, Option.map_some, ← List.append_assoc]
  rw [@List.length_append _ _ rest, Nat.add_sub_cancel, List.take_left]

/-- A literal has no hexadecimal digits. -/
lemma hexDigits?_text {negative : Bool} :
    hexDigits? (Number.signText negative ++ l.text) = none := by
  cases negative with
  | true => rfl
  | false =>
    obtain ⟨c, cs, hwhole, -, hzero⟩ := l.whole_cons
    obtain ⟨d, ds, hrest, hd⟩ := @l.rest_cons
    change hexDigits? l.text = none
    unfold hexDigits?
    split
    · next x e es h =>
      rw [Literal.text, hwhole, List.cons_append, List.cons.injEq] at h
      rw [hzero h.1, List.nil_append, hrest, List.cons.injEq] at h
      rw [← h.2.1]
      refine if_neg (not_or.2 ⟨?_, ?_⟩)
      · rintro rfl
        exact hd.elim (by decide) (by decide)
      · rintro rfl
        exact hd.elim (by decide) (by decide)
    · rfl

/-- A literal with its sign starts with a digit or with a minus. -/
lemma text_ne_cons {negative : Bool} (d : Char) (ds : List Char) (hd : d ≠ '-')
    (hdigit : d.isDigit = false) :
    Number.signText negative ++ l.text ≠ d :: ds := by
  obtain ⟨c, cs, htext, hc⟩ := @l.text_cons
  intro h
  cases negative with
  | true => exact hd (List.cons.inj h).1.symm
  | false =>
    rw [htext] at h
    exact Text.ne_of_kind hc hdigit (List.cons.inj h).1

/-- The sign of a literal comes before a digit. -/
lemma text_ne_minus {negative : Bool} (d : Char) (ds : List Char) (hdigit : d.isDigit = false) :
    Number.signText negative ++ l.text ≠ '-' :: d :: ds := by
  obtain ⟨c, cs, htext, hc⟩ := @l.text_cons
  intro h
  cases negative with
  | true =>
    rw [htext] at h
    exact Text.ne_of_kind hc hdigit (List.cons.inj (List.cons.inj h).2).1
  | false =>
    rw [htext] at h
    exact Text.ne_of_kind (d := '-') hc rfl (List.cons.inj h).1

/-- A literal has a point or an exponent. -/
lemma any_text {negative : Bool} :
    ((Number.signText negative ++ l.text).any fun c => c == '.' || c == 'e' || c == 'E') = true := by
  obtain ⟨d, ds, hrest, hd⟩ := @l.rest_cons
  refine List.any_eq_true.2 ⟨d, ?_, ?_⟩
  · rw [Literal.text, hrest]
    exact List.mem_append_right _ (List.mem_append_right _ List.mem_cons_self)
  · obtain rfl | rfl := hd
    · rfl
    · rfl

/-- The value of a literal is the number that it is read as. -/
lemma numberValue_text {negative : Bool} {x : Float}
    (hread : Number.read? (Number.signText negative ++ l.text) = some x) (hx : x.isFinite = true) :
    numberValue (Number.signText negative ++ l.text) = .num (.fraction x) := by
  have infinity : Number.signText negative ++ l.text ≠ "Infinity".toList :=
    text_ne_cons 'I' ['n', 'f', 'i', 'n', 'i', 't', 'y'] (by decide) rfl
  have minusInfinity : Number.signText negative ++ l.text ≠ "-Infinity".toList :=
    text_ne_minus 'I' ['n', 'f', 'i', 'n', 'i', 't', 'y'] rfl
  have noNumber : ¬(Number.signText negative ++ l.text = "NaN".toList ∨
      Number.signText negative ++ l.text = "-NaN".toList) :=
    not_or.2 ⟨text_ne_cons 'N' ['a', 'N'] (by decide) rfl,
      text_ne_minus 'N' ['a', 'N'] rfl⟩
  unfold numberValue
  simp only [hexDigits?_text, any_text, hread, hx, if_true]
  rw [if_neg infinity, if_neg minusInfinity, if_neg noNumber]

/-- A finite number that is no small integer is read as what is written for it. -/
lemma legibleLeaf_fraction {x : Float} (hx : x.isFinite = true)
    (h : Number.smallInteger? x = none) : LegibleLeaf (.number x) := by
  obtain ⟨negative, l, htext, hread⟩ := Literal.exists_fractionText hx h
  have written : (Json.Number.fraction x).text = Number.signText negative ++ l.text := htext
  have hjson : (Scalar.number x).toJson = .num (.fraction x) := by
    simp only [Scalar.toJson, h, hx, if_true]
  refine legibleLeaf_of_number? hjson ?_ ?_ ?_
  · rw [written]
    cases negative with
    | true => exact ⟨'-', _, rfl, .inl rfl⟩
    | false =>
      obtain ⟨c, cs, hl, hc⟩ := @l.text_cons
      exact ⟨c, cs, hl, .inr hc⟩
  · intro rest hr
    rw [written]
    exact number?_text hr
  · rw [written]
    exact numberValue_text hread hx

end Json.Relaxed

end Gamebook
