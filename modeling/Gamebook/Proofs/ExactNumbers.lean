import Gamebook.Number.Binary
import Mathlib.Algebra.Group.Nat.Defs
import Mathlib.Tactic.Lemma

/-!
# Exact whole numbers

A natural number below `2 ^ 53` is kept exactly by a number of 64 bits. Its mantissa is shifted to
the left until it has 53 bits, so that neither rounding nor packing loses one of them. Main
definition: `Number.Full`. Main statement: `Number.integer?_ofNat`.
-/

namespace Gamebook.Number

open Float.Model (Format UnpackedFloat totalExponent)
open Float.Model.UnpackedFloat

/-- Whether `m · 2 ^ q` is packed with all 53 bits of the mantissa. -/
structure Full (m : Nat) (q : Int) : Prop where
  /-- The first of the bits is set. -/
  least : 2 ^ 52 ≤ m
  /-- There are no more bits. -/
  most : m < 2 ^ 53
  /-- The exponent is not too small to be packed. -/
  low : -1074 ≤ q
  /-- The exponent is not too large to be packed. -/
  high : q ≤ 971

/-- A mantissa has 53 bits, or it has fewer and the least exponent. -/
lemma targetExponent_eq {e : Int} : Format.targetExponent .binary64 e = max (e - 53) (-1074) :=
  rfl

/-- The first bit, which is not packed, and the other bits. -/
lemma toNat_append_one {b : BitVec 52} : (1#1 ++ b).toNat = 2 ^ 52 + b.toNat := by
  rw [BitVec.toNat_append, ← Nat.shiftLeft_add_eq_or_of_lt b.isLt]
  rfl

/-- Equal parts make up equal numbers. -/
lemma finite_congr {s s' : Sign} {m m' : Nat} {q q' : Int} {h : 0 < m} {h' : 0 < m'} (hs : s = s')
    (hm : m = m') (hq : q = q') : UnpackedFloat.finite s m q h = .finite s' m' q' h' := by
  subst hs hm hq
  rfl

/-- The sign is packed as it is. -/
lemma unpackSign_packComponents_eq {s : Sign} {e m} :
    Sign.ofBitVec (unpackSign (packComponents .binary64 s e m)) = s := by
  have packed : unpackSign (packComponents .binary64 s e m) = s.toBitVec := by
    change (s.toBitVec ++ e ++ m).extractLsb' 63 1 = _
    rw [BitVec.extractLsb'_append_eq_of_le (by decide),
      BitVec.extractLsb'_append_eq_of_le (by decide)]
    exact BitVec.extractLsb'_eq_self
  rw [packed]
  cases s <;> rfl

section Bits

variable {m : Nat} {q : Int} {s : Sign} {h : 0 < m}

/-- A mantissa of 53 bits is packed with its exponent, and its first bit is left out. -/
lemma pack_full {b : Nat} (hb : q + 1075 = b) (hlast : b < 2047) (hlog : m.log2 = 52) :
    pack .binary64 (.finite s m q h) =
      packComponents .binary64 s (BitVec.ofNat 11 b) (BitVec.ofNat 52 m) := by
  have hbias : (Format.exponentBias .binary64 : Int) = 1023 := rfl
  have hexponent : (q + (Format.exponentBias .binary64 : Int) + (52 : Nat)).toNat = b := by
    rw [hbias]
    omega
  have hlast : ¬ Nat.pow 2 11 ≤
      (q + (Format.exponentBias .binary64 : Int) + (52 : Nat)).toNat + 1 := by
    rw [hexponent]
    exact Nat.not_le.2 (Nat.succ_lt_succ hlast)
  have hbits : m.log2 + 1 = Format.mantissaBits .binary64 := congrArg (· + 1) hlog
  refine (if_neg hlast).trans ((if_pos hbits).trans ?_)
  rw [hexponent]

/-- A mantissa of fewer bits is packed with the first exponent. -/
lemma pack_least (hlog : m.log2 < 52) :
    pack .binary64 (.finite s m (-1074) h) =
      packComponents .binary64 s 0#11 (BitVec.ofNat 52 m) := by
  have hbits : m.log2 + 1 ≠ Format.mantissaBits .binary64 :=
    Nat.ne_of_lt (Nat.succ_lt_succ hlog)
  exact if_neg hbits

variable {b : BitVec (Format.numBits .binary64)}

/-- Bits with the last exponent are not those of a finite number. -/
lemma unpack_last (hlast : unpackExponent b = -1#11) :
    (∃ s, unpack .binary64 b = .infinity s) ∨ unpack .binary64 b = .notANumber := by
  by_cases hzero : unpackMantissa b = 0#52
  · exact .inl ⟨_, (if_pos hlast).trans (if_pos hzero)⟩
  · exact .inr ((if_pos hlast).trans (if_neg hzero))

/-- Bits with the first exponent and no others are those of a zero. -/
lemma unpack_zero (hfirst : unpackExponent b = 0#11) (hzero : unpackMantissa b = 0#52) :
    unpack .binary64 b = .zero (Sign.ofBitVec (unpackSign b)) := by
  have hlast : unpackExponent b ≠ -1#11 := by
    rw [hfirst]
    decide
  exact (if_neg hlast).trans ((if_pos hfirst).trans (dif_pos hzero))

/-- Bits with the first exponent and others are those of a mantissa of fewer than 53 bits. -/
lemma unpack_least (hfirst : unpackExponent b = 0#11) (hm : 0 < (unpackMantissa b).toNat) :
    unpack .binary64 b =
      .finite (Sign.ofBitVec (unpackSign b)) (unpackMantissa b).toNat (-1074) hm := by
  have hlast : unpackExponent b ≠ -1#11 := by
    rw [hfirst]
    decide
  have hzero : unpackMantissa b ≠ 0#52 := by
    intro e
    exact absurd (congrArg BitVec.toNat e) (Nat.ne_of_gt hm)
  have hq : ((unpackExponent b).toNat : Int) - 1075 + 1 = -1074 := by
    rw [hfirst]
    rfl
  refine (if_neg hlast).trans ((if_pos hfirst).trans ((dif_neg hzero).trans ?_))
  exact finite_congr rfl rfl hq

/-- Bits with any other exponent are those of a mantissa of 53 bits. -/
lemma unpack_full (hlast : unpackExponent b ≠ -1#11) (hfirst : unpackExponent b ≠ 0#11)
    (hm : 0 < (1#1 ++ unpackMantissa b).toNat) :
    unpack .binary64 b = .finite (Sign.ofBitVec (unpackSign b)) (1#1 ++ unpackMantissa b).toNat
      ((unpackExponent b).toNat - 1075) hm :=
  (if_neg hlast).trans (if_neg hfirst)

end Bits

/-- Rounding shifts a mantissa, rounds it and shifts it again. -/
lemma roundWithAccuracy_eq {m : Nat} {q e e' : Int} {a : Accuracy} {em em' : ExtendedMantissa}
    {s : Sign} (first : shiftToTargetExponent .binary64 m q a = (em, e))
    (second : shiftToTargetExponent .binary64 em.roundedMantissa e .exact = (em', e'))
    (h : 0 < em'.mantissa) :
    UnpackedFloat.roundWithAccuracy .binary64 s m q a = .finite s em'.mantissa e' h := by
  rw [UnpackedFloat.roundWithAccuracy, first]
  dsimp only
  rw [second]
  exact dif_neg (Nat.ne_of_gt h)

namespace Full

variable {m : Nat} {q : Int} {k : Nat} {s : Sign}

lemma ne_zero (h : Full m q) : m ≠ 0 := by
  have := h.least
  omega

lemma pos (h : Full m q) : 0 < m :=
  Nat.pos_of_ne_zero h.ne_zero

/-- A full mantissa has 53 bits, and as many more as it is shifted by. -/
lemma log2 (h : Full m q) : (m * 2 ^ k).log2 = 52 + k := by
  refine (Nat.log2_eq_iff (Nat.mul_ne_zero h.ne_zero (Nat.ne_of_gt k.two_pow_pos))).2 ⟨?_, ?_⟩
  · rw [Nat.pow_add]
    exact Nat.mul_le_mul_right _ h.least
  · rw [show 52 + k + 1 = 53 + k by omega, Nat.pow_add]
    exact Nat.mul_lt_mul_of_pos_right h.most k.two_pow_pos

/-- The exponent where such a number has a full mantissa. -/
lemma targetExponent (h : Full m q) :
    Format.targetExponent .binary64 (totalExponent (m * 2 ^ k) (q - k)) = q := by
  have low := h.low
  rw [totalExponent, h.log2, targetExponent_eq]
  omega

/-- Packing loses nothing. -/
lemma unpack_pack (h : Full m q) :
    (Float.Model.pack (.finite s m q h.pos)).unpack = .finite s m q h.pos := by
  have low := h.low
  have high := h.high
  obtain ⟨b, hb⟩ : ∃ b : Nat, q + 1075 = b := ⟨(q + 1075).toNat, by omega⟩
  have htoNat : (BitVec.ofNat 11 b).toNat = b := by
    rw [BitVec.toNat_ofNat, Nat.mod_eq_of_lt (by omega)]
  have hmantissa : (1#1 ++ BitVec.ofNat 52 m).toNat = m := by
    have least := h.least
    have most := h.most
    rw [toNat_append_one, BitVec.toNat_ofNat]
    omega
  -- the exponent field is neither that of the least numbers nor that of infinities
  have hfirst : BitVec.ofNat 11 b ≠ 0#11 := by
    intro e
    have e : b = 0 := htoNat.symm.trans (congrArg BitVec.toNat e)
    omega
  have hlast : BitVec.ofNat 11 b ≠ -1#11 := by
    intro e
    have e : b = 2047 := htoNat.symm.trans (congrArg BitVec.toNat e)
    omega
  have hlog : m.log2 = 52 := by
    have hlog := h.log2 (k := 0)
    rwa [Nat.pow_zero, Nat.mul_one] at hlog
  change unpack .binary64 (pack .binary64 _) = _
  rw [pack_full hb (by omega) hlog, unpack_full]
  · refine finite_congr unpackSign_packComponents_eq ?_ ?_
    · rw [unpackMantissa_packComponents]
      exact hmantissa
    · rw [unpackExponent_packComponents, htoNat]
      omega
  · rw [unpackExponent_packComponents]
    exact hlast
  · rw [unpackExponent_packComponents]
    exact hfirst
  · rw [unpackMantissa_packComponents, hmantissa]
    exact h.pos

/-- Zeros that a mantissa is shifted by are cut off without a trace. -/
lemma shiftRight_eq :
    (⟨m * 2 ^ k, false, false⟩ : ExtendedMantissa) >>> k = ⟨m, false, false⟩ := by
  change Nat.repeat ExtendedMantissa.shiftRightOne k _ = _
  induction k generalizing m with
  | zero => rw [Nat.pow_zero, Nat.mul_one, Nat.repeat]
  | succ k ih =>
    rw [Nat.repeat, Nat.pow_succ, ← Nat.mul_assoc, Nat.mul_right_comm, ih,
      ExtendedMantissa.shiftRightOne, Nat.mul_div_cancel m Nat.two_pos, Nat.mul_mod_left]
    rfl

/-- Such a number is shifted to its full mantissa. -/
lemma shift (h : Full m q) :
    shiftToTargetExponent .binary64 (m * 2 ^ k) (q - k) .exact = (⟨m, false, false⟩, q) := by
  rw [shiftToTargetExponent, h.targetExponent, shiftToExponent]
  have hk : (q - (q - k)).toNat = k := by omega
  simp only [hk, ExtendedMantissa.ofMantissaAndAccuracy, shiftRight_eq]
  congr 1
  omega

/-- Such a number is not rounded. -/
lemma roundWithAccuracy (h : Full m q) :
    UnpackedFloat.roundWithAccuracy .binary64 s (m * 2 ^ k) (q - k) .exact =
      .finite s m q h.pos := by
  have again : shiftToTargetExponent .binary64 m q .exact = (⟨m, false, false⟩, q) := by
    have again := h.shift (k := 0)
    rwa [Nat.pow_zero, Nat.mul_one, Int.natCast_zero, Int.sub_zero] at again
  exact roundWithAccuracy_eq h.shift again h.pos

/-- The product with one is the number itself. -/
lemma mul_one (h : Full m q) :
    UnpackedFloat.mul .binary64 (.finite s m q h.pos)
      (.finite .positive (2 ^ 52) (-52) (Nat.two_pow_pos 52)) = .finite s m q h.pos := by
  have hsign : s * .positive = s := by
    cases s with
    | negative => rfl
    | positive => rfl
  change UnpackedFloat.roundWithAccuracy .binary64 (s * .positive) (m * 2 ^ 52) (q - 52) .exact = _
  rw [hsign]
  exact h.roundWithAccuracy

end Full

section Whole

variable {n : Nat}

/-- A natural number with its mantissa shifted to the left. -/
lemma full_of_lt (hn : n ≠ 0) (h : n < 2 ^ 53) :
    Full (n * 2 ^ (52 - n.log2)) (n.log2 - 52) := by
  have hlog : n.log2 < 53 := (Nat.log2_lt hn).2 h
  have hpow : 2 ^ n.log2 * 2 ^ (52 - n.log2) = 2 ^ 52 := by
    rw [← Nat.pow_add, Nat.add_sub_cancel' (Nat.le_of_lt_succ hlog)]
  have hpow' : 2 ^ (n.log2 + 1) * 2 ^ (52 - n.log2) = 2 ^ 53 := by
    rw [← Nat.pow_add, show n.log2 + 1 + (52 - n.log2) = 53 by omega]
  refine ⟨?_, ?_, by omega, by omega⟩
  · exact hpow ▸ Nat.mul_le_mul_right _ (Nat.log2_self_le hn)
  · exact hpow' ▸ Nat.mul_lt_mul_of_pos_right Nat.lt_log2_self (Nat.two_pow_pos _)

/-- A natural number is made a number of 64 bits without being rounded. -/
lemma ofNat_eq (hn : n ≠ 0) (h : n < 2 ^ 53) :
    UnpackedFloat.ofNat .binary64 n =
      .finite .positive (n * 2 ^ (52 - n.log2)) (n.log2 - 52) (full_of_lt hn h).pos := by
  have hpos : compare (n : Int) 0 = .gt := by
    rw [Int.compare_eq_gt]
    omega
  have hlog : n.log2 < 53 := (Nat.log2_lt hn).2 h
  have target : Format.targetExponent .binary64 (totalExponent n 0) = n.log2 - 52 := by
    rw [totalExponent, targetExponent_eq]
    omega
  have amount : ((0 : Int) - (n.log2 - 52)).toNat = 52 - n.log2 := by
    omega
  have exponent : (0 : Int) - (52 - n.log2 : Nat) = n.log2 - 52 := by
    omega
  have decreased : decreaseExponent n 0 (Format.targetExponent .binary64 (totalExponent n 0)) =
      (n * 2 ^ (52 - n.log2), (n.log2 : Int) - 52) := by
    rw [target, decreaseExponent]
    simp only [amount, exponent, Nat.shiftLeft_eq]
  have rounded := (full_of_lt hn h).roundWithAccuracy (k := 0) (s := .positive)
  rw [Nat.pow_zero, Nat.mul_one, Int.natCast_zero, Int.sub_zero] at rounded
  rw [UnpackedFloat.ofNat, UnpackedFloat.ofInt, UnpackedFloat.normalize, hpos]
  change UnpackedFloat.roundWithAccuracy .binary64 .positive
    (decreaseExponent n 0 (Format.targetExponent .binary64 (totalExponent n 0))).1
    (decreaseExponent n 0 (Format.targetExponent .binary64 (totalExponent n 0))).2 .exact = _
  rw [decreased]
  exact rounded

/-- A natural number below `2 ^ 53` that is made a number of 64 bits, taken apart. -/
lemma unpack_ofUInt64 (hn : n ≠ 0) (h : n < 2 ^ 53) :
    (Float.Model.ofUInt64 n.toUInt64).unpack =
      .finite .positive (n * 2 ^ (52 - n.log2)) (n.log2 - 52) (full_of_lt hn h).pos := by
  have full := full_of_lt hn h
  have hmod : n.toUInt64.toNat = n := Nat.mod_eq_of_lt (by omega)
  rw [Float.Model.ofUInt64, ofUInt64, hmod, ofNat_eq hn h, full.unpack_pack]

/-- A natural number below `2 ^ 53`, taken apart. -/
lemma unpack_ofNat (hn : n ≠ 0) (h : n < 2 ^ 53) :
    (Float.ofNat n).toModel.unpack =
      .finite .positive (n * 2 ^ (52 - n.log2)) (n.log2 - 52) (full_of_lt hn h).pos := by
  have full := full_of_lt hn h
  have one : (Float.ofBits 0x3FF0000000000000).toModel.unpack =
      .finite .positive (2 ^ 52) (-52) (Nat.two_pow_pos 52) := rfl
  -- a natural number is read as a decimal, a product with a power of ten
  have product : (Float.ofNat n).toModel =
      .mul (.ofUInt64 n.toUInt64) (Float.ofBits 0x3FF0000000000000).toModel := by
    change (if _h : n < 2 ^ 53 ∧ 0 ≤ 22 then _ else _ : Float).toModel = _
    rw [dif_pos ⟨h, by omega⟩]
    rfl
  rw [product, Float.Model.mul, unpack_ofUInt64 hn h, one, full.mul_one, full.unpack_pack]

/-- A natural number below `2 ^ 53` is kept exactly. -/
lemma integer?_ofNat (h : n < 2 ^ 53) : integer? (.ofNat n) = some (n : Int) := by
  obtain rfl | hpos := Nat.eq_zero_or_pos n
  · rfl
  · have hn := Nat.ne_of_gt hpos
    have hlog : n.log2 < 53 := (Nat.log2_lt hn).2 h
    rw [integer?, Binary.ofFloat, unpack_ofNat hn h]
    by_cases hfull : n.log2 = 52
    · simp [hfull]
    · have hq : ¬ (0 : Int) ≤ n.log2 - 52 := by
        omega
      have hshift : (-((n.log2 : Int) - 52)).toNat = 52 - n.log2 := by
        omega
      simp only [hq, hshift, Nat.pow_eq, Nat.mul_mod_left, false_or, if_true, if_false,
        Nat.mul_div_cancel n (Nat.two_pow_pos _)]
      rfl

end Whole

end Gamebook.Number
