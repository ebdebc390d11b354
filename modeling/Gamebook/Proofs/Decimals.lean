import Gamebook.Number.Read
import Gamebook.Proofs.Rounding
import Mathlib.Algebra.Order.Field.Power
import Mathlib.Data.Nat.Cast.Order.Field

/-!
# Decimals that read back

The shortest decimal of a finite number lies where all numbers are rounded to that one, and a
decimal literal is read as the number that its value is rounded to. So the number is read back from
its shortest decimal. Main definition: `Decimal.value`. Main statements: `rounds_shortest`,
`Decimal.toFloat_of_rounds`, `signed_toFloat_of_rounds`.
-/

namespace Gamebook.Number

open Float.Model (Format UnpackedFloat)
open Float.Model.UnpackedFloat

/-- The value of a decimal. -/
def Decimal.value (d : Decimal) : ℚ :=
  d.digits * 10 ^ d.exponent

section Intervals

variable {m c : Nat} {q k : Int} {tie : Tie}

lemma zpow_eq_div {b : ℚ} (hb : b ≠ 0) : b ^ k = b ^ k.toNat / b ^ (-k).toNat := by
  rw [← zpow_natCast, ← zpow_natCast, ← zpow_sub₀ hb]
  congr 1
  omega

/-- Products of natural numbers with two units compare as the products with the rationals that these
are in proportion to. -/
lemma mul_le_mul_iff_of_ratio {a b : Nat} {r t : ℚ} (hb : 0 < b) (ht : 0 < t)
    (ratio : a * t = b * r) {x y : Nat} : x * a ≤ y * b ↔ x * r ≤ y * t := by
  have hb' : (0 : ℚ) < b := Nat.cast_pos.2 hb
  have left : ((x * a : Nat) : ℚ) * t = b * (x * r) := by
    rw [Nat.cast_mul, mul_assoc, ratio, mul_left_comm]
  have right : ((y * b : Nat) : ℚ) * t = b * (y * t) := by
    rw [Nat.cast_mul, mul_comm (y : ℚ), mul_assoc]
  rw [← @Nat.cast_le ℚ, ← mul_le_mul_iff_left₀ ht, left, right, mul_le_mul_iff_right₀ hb']

lemma two_zpow_eq_four_mul : (2 : ℚ) ^ q = 4 * 2 ^ (q - 2) := by
  rw [show (4 : ℚ) = 2 ^ (2 : Int) by norm_num, ← zpow_add₀ two_ne_zero, add_sub_cancel]

/-- The lower end of the interval in quarters of the last bit. -/
lemma lower_end (hm : 0 < m) :
    ((4 * m - (if m = Nat.pow 2 52 ∧ -1074 < q then 1 else 2) : Nat) : ℚ) * 2 ^ (q - 2) =
      (m - gapBelow m q) * 2 ^ q := by
  rw [@two_zpow_eq_four_mul q, gapBelow]
  by_cases h : m = 2 ^ 52 ∧ -1074 < q
  · rw [if_pos (show m = Nat.pow 2 52 ∧ -1074 < q from h), if_pos h, Nat.cast_sub (by omega)]
    push_cast
    ring
  · rw [if_neg (show ¬(m = Nat.pow 2 52 ∧ -1074 < q) from h), if_neg h, Nat.cast_sub (by omega)]
    push_cast
    ring

/-- The upper end of the interval in quarters of the last bit. -/
lemma upper_end : ((4 * m + 2 : Nat) : ℚ) * 2 ^ (q - 2) = (m + 1 / 2) * 2 ^ q := by
  rw [@two_zpow_eq_four_mul q]
  push_cast
  ring

/-- The ends of the interval around a number are the ends of what is rounded to it. -/
lemma holds_iff (hm : 0 < m) : (interval m q k).holds c = true ↔ Rounds m q (c * 10 ^ k) := by
  -- the ends are whole numbers over the same denominator as what is compared with them
  have ratio : ((2 ^ (q - 2).toNat * 10 ^ (-k).toNat : Nat) : ℚ) * 10 ^ k =
      (2 ^ (2 - q).toNat * 10 ^ k.toNat : Nat) * 2 ^ (q - 2) := by
    rw [zpow_eq_div two_ne_zero, zpow_eq_div (k := k) (by norm_num : (10 : ℚ) ≠ 0), neg_sub]
    push_cast
    field_simp
  have hunit : 0 < 2 ^ (q - 2).toNat * 10 ^ (-k).toNat := by positivity
  have hden : 0 < 2 ^ (2 - q).toNat * 10 ^ k.toNat := by positivity
  have htwo : (0 : ℚ) < 2 ^ (q - 2) := by positivity
  have hten : (0 : ℚ) < 10 ^ k := by positivity
  have low : (interval m q k).low ≤ c * (interval m q k).den ↔
      (m - gapBelow m q) * 2 ^ q ≤ c * 10 ^ k :=
    (mul_le_mul_iff_of_ratio hden hten ratio).trans (by rw [lower_end hm])
  have low' : c * (interval m q k).den ≤ (interval m q k).low ↔
      c * 10 ^ k ≤ (m - gapBelow m q) * 2 ^ q :=
    (mul_le_mul_iff_of_ratio hunit htwo ratio.symm).trans (by rw [lower_end hm])
  have high : c * (interval m q k).den ≤ (interval m q k).high ↔
      (c : ℚ) * 10 ^ k ≤ (m + 1 / 2) * 2 ^ q :=
    (mul_le_mul_iff_of_ratio hunit htwo ratio.symm).trans (by rw [upper_end])
  have high' : (interval m q k).high ≤ c * (interval m q k).den ↔
      (m + 1 / 2) * 2 ^ q ≤ (c : ℚ) * 10 ^ k :=
    (mul_le_mul_iff_of_ratio hden hten ratio).trans (by rw [upper_end])
  have closed : (interval m q k).closed = decide (m % 2 = 0) := rfl
  rw [Interval.holds, closed]
  by_cases even : m % 2 = 0
  · rw [if_pos (decide_eq_true even), Bool.and_eq_true, decide_eq_true_iff, decide_eq_true_iff, low,
      high]
    exact ⟨fun h => ⟨h.1, h.2, fun odd => absurd (even.symm.trans odd) zero_ne_one⟩,
      fun h => ⟨h.low, h.high⟩⟩
  · have odd : m % 2 = 1 := Nat.mod_two_ne_zero.1 even
    rw [if_neg (ne_true_of_eq_false (decide_eq_false even)), Bool.and_eq_true, decide_eq_true_iff,
      decide_eq_true_iff, lt_iff_lt_of_le_iff_le low', lt_iff_lt_of_le_iff_le high']
    exact ⟨fun h => ⟨h.1.le, h.2.le, fun _ => h⟩, fun h => h.inside odd⟩

/-- What is near to a number is rounded to it. -/
lemma rounds_of_near {m : Nat} {q : Int} {v : ℚ} (h : |v - m * 2 ^ q| < gapBelow m q * 2 ^ q) :
    Rounds m q v := by
  obtain ⟨hlow, hhigh⟩ := abs_lt.1 h
  have hgap := mul_le_mul_of_nonneg_right (@gapBelow_bounds m q).2
    (by positivity : (0 : ℚ) ≤ 2 ^ q)
  have low : (m - gapBelow m q) * 2 ^ q < v := by
    rw [sub_mul]
    linarith
  have high : v < (m + 1 / 2) * 2 ^ q := by
    rw [add_mul]
    linarith
  exact ⟨low.le, high.le, fun _ => ⟨low, high⟩⟩

/-- Half a unit of the seventeenth digit is less than the way to what is rounded elsewhere. -/
lemma half_unit_lt (legal : Legal m q) (h : 10 ^ 16 * 10 ^ k ≤ (m : ℚ) * 2 ^ q) :
    1 / 2 * 10 ^ k < gapBelow m q * 2 ^ q := by
  have hpow : (0 : ℚ) < 2 ^ q := by positivity
  rw [gapBelow]
  split
  · next hm =>
    rw [hm.1] at h
    push_cast at h
    linarith
  · have most : (m : ℚ) ≤ 2 ^ 53 := by exact_mod_cast legal.most.le
    have := mul_le_mul_of_nonneg_right most hpow.le
    linarith

lemma value_div_den {m : Nat} {q k : Int} :
    ((interval m q k).value : ℚ) / (interval m q k).den * 10 ^ k = m * 2 ^ q := by
  have : ((interval m q k).value : ℚ) / (interval m q k).den =
      ((4 * m * (2 ^ (q - 2).toNat * 10 ^ (-k).toNat) : Nat) : ℚ) /
        (2 ^ (2 - q).toNat * 10 ^ k.toNat : Nat) := rfl
  rw [this, zpow_eq_div (k := k) (by norm_num : (10 : ℚ) ≠ 0), @two_zpow_eq_four_mul q,
    zpow_eq_div (k := q - 2) two_ne_zero, neg_sub]
  push_cast
  field_simp

/-- One of the two neighbours of a number is taken if it is rounded to the number. -/
lemma holds_of_nearest? {i : Interval} (h : i.nearest? tie = some c) : i.holds c = true := by
  unfold Interval.nearest? at h
  simp only at h
  split at h
  · cases h
  · next hfloor _ =>
    cases h
    exact hfloor
  · next hnext =>
    cases h
    exact hnext
  · next hfloor hnext =>
    split at h
    · cases h
      exact hfloor
    · cases h
      exact hnext
    · cases h
      exact hnext
    · rw [Option.some.injEq] at h
      split at h
      · cases h
        exact hfloor
      · cases h
        exact hnext

lemma nearest?_eq_none {i : Interval} (h : i.nearest? tie = none) :
    i.holds (i.value / i.den) = false ∧ i.holds (i.value / i.den + 1) = false := by
  unfold Interval.nearest? at h
  simp only at h
  split at h
  · next hfloor hnext => exact ⟨hfloor, hnext⟩
  · cases h
  · cases h
  · split at h <;> cases h

/-- With seventeen digits one of the neighbours of a number is rounded to it. -/
lemma nearest?_ne_none (legal : Legal m q) (h : 10 ^ 16 * 10 ^ k ≤ (m : ℚ) * 2 ^ q) :
    (interval m q k).nearest? tie ≠ none := by
  intro hnone
  obtain ⟨hfloor, hnext⟩ := nearest?_eq_none hnone
  have hden : 0 < (interval m q k).den := by
    change 0 < 2 ^ (2 - q).toNat * 10 ^ k.toNat
    positivity
  have hvalue := @value_div_den m q k
  have hhalf := half_unit_lt legal h
  have hten : (0 : ℚ) < 10 ^ k := by positivity
  generalize (interval m q k).value = a at *
  generalize (interval m q k).den = b at *
  have hb : (0 : ℚ) < b := by exact_mod_cast hden
  obtain ⟨low, high⟩ := (@stands_div a b hden).floor
  rw [mantissa_ofMantissaAndAccuracy] at low high
  have near {c : Nat} (hc : |(c : ℚ) - a / b| ≤ 1 / 2) : (interval m q k).holds c = true := by
    refine (holds_iff legal.pos).2 (rounds_of_near ?_)
    rw [← hvalue, ← sub_mul, abs_mul, abs_of_pos hten]
    exact (mul_le_mul_of_nonneg_right hc hten.le).trans_lt hhalf
  by_cases hc : (a / b : ℚ) - (a / b : Nat) ≤ 1 / 2
  · have := near (c := a / b) (abs_le.2 ⟨by linarith, by linarith⟩)
    rw [hfloor] at this
    cases this
  · have := near (c := a / b + 1) (abs_le.2 ⟨by push_cast; linarith, by push_cast; linarith⟩)
    rw [hnext] at this
    cases this

/-- Zeros at the end of a decimal are taken away without changing its value. -/
lemma value_strip {fuel : Nat} {d : Decimal} : (d.strip fuel).value = d.value := by
  induction fuel generalizing d with
  | zero => rfl
  | succ fuel ih =>
    rw [Decimal.strip]
    split
    · next h =>
      rw [ih, Decimal.value, Decimal.value]
      have : d.digits = d.digits / 10 * 10 := by omega
      conv_rhs => rw [this]
      rw [zpow_add_one₀ (by norm_num)]
      push_cast
      ring
    · rfl

/-- A number has as many digits as the least power of ten above it. -/
lemma digitCount_spec {n : Nat} (hn : 0 < n) :
    ∃ d, digitCount n = d + 1 ∧ 10 ^ d ≤ n ∧ n < 10 ^ (d + 1) := by
  have hcount : digitCount n = (Nat.toDigits 10 n).length := if_neg hn.ne'
  obtain ⟨d, hd⟩ := Nat.exists_eq_succ_of_ne_zero (@Nat.length_toDigits_pos 10 n).ne'
  refine ⟨d, hcount.trans hd, ?_, ?_⟩
  · by_cases h : d = 0
    · rw [h]
      exact hn
    · refine Nat.le_of_not_lt fun hlt => ?_
      have := (Nat.length_toDigits_le_iff (by decide) (Nat.pos_of_ne_zero h)).2 hlt
      omega
  · exact (Nat.length_toDigits_le_iff (by decide) (Nat.succ_pos d)).1 hd.le

/-- The first digit of a number is in the place that its decimal point tells. -/
lemma ten_zpow_le {num den : Nat} (hnum : 0 < num) (hden : 0 < den) :
    (10 : ℚ) ^ (decimalPoint num den - 1) ≤ num / den := by
  have hden' : (0 : ℚ) < den := Nat.cast_pos.2 hden
  rw [decimalPoint]
  split
  · next hle =>
    obtain ⟨d, hd, hlow, -⟩ := digitCount_spec (Nat.div_pos hle hden)
    rw [hd, Nat.cast_succ, add_sub_cancel_right, zpow_natCast]
    have : ((10 ^ d : Nat) : ℚ) ≤ (num / den : Nat) := Nat.cast_le.2 hlow
    rw [Nat.cast_pow, Nat.cast_ofNat] at this
    exact this.trans Nat.cast_div_le
  · next hlt =>
    obtain ⟨d, hd, -, hhigh⟩ := digitCount_spec (Nat.div_pos (by omega : num ≤ den - 1) hnum)
    have hle : den ≤ num * 10 ^ (d + 1) := by
      have := (Nat.div_lt_iff_lt_mul hnum).1 hhigh
      rw [mul_comm]
      omega
    have hle : (den : ℚ) ≤ (num * 10 ^ (d + 1) : Nat) := Nat.cast_le.2 hle
    rw [hd, sub_sub_cancel_left, zpow_neg, zpow_natCast, le_div_iff₀ hden',
      inv_mul_le_iff₀ (by positivity), mul_comm]
    push_cast at hle
    exact hle

/-- A decimal that is found with at most seventeen digits is rounded to the number. -/
lemma rounds_shortestFrom (legal : Legal m q) {point : Int} {count fuel : Nat}
    (hpoint : (10 : ℚ) ^ (point - 1) ≤ m * 2 ^ q) (hcount : count ≤ 17)
    (hfuel : 17 < count + fuel) :
    Rounds m q (shortestFrom tie m q point count fuel).value := by
  induction fuel generalizing count with
  | zero => omega
  | succ fuel ih =>
    rw [shortestFrom]
    split
    · next c hc =>
      rw [value_strip]
      exact (holds_iff legal.pos).1 (holds_of_nearest? hc)
    · next hnone =>
      refine ih ?_ (by omega)
      by_contra hlast
      obtain rfl : count = 17 := by omega
      refine nearest?_ne_none legal ?_ hnone
      rw [← zpow_natCast, ← zpow_add₀ (by norm_num)]
      exact le_trans (zpow_le_zpow_right₀ (by norm_num) (by omega)) hpoint

/-- The shortest decimal of a number is rounded to the number. -/
theorem rounds_shortest (legal : Legal m q) : Rounds m q (shortest tie m q).value := by
  refine rounds_shortestFrom legal ?_ (by decide) (by decide)
  have := @ten_zpow_le (m * Nat.pow 2 q.toNat) (Nat.pow 2 (-q).toNat)
    (Nat.mul_pos legal.pos (Nat.two_pow_pos _)) (Nat.two_pow_pos _)
  rw [zpow_eq_div (k := q) two_ne_zero, ← mul_div_assoc]
  have power (k : Nat) : ((Nat.pow 2 k : Nat) : ℚ) = 2 ^ k := by
    rw [Nat.pow_eq, Nat.cast_pow, Nat.cast_ofNat]
  rw [Nat.cast_mul, power, power] at this
  exact this

end Intervals

section Reading

variable {m n k : Nat} {e q : Int} {v : ℚ}

/-- Whether a number has the value of a power of ten. -/
def isPowerOfTen (k : Nat) (x : Float) : Bool :=
  match x.toModel.unpack with
  | .finite .positive m q _ => m * Nat.pow 2 q.toNat == Nat.pow 10 k * Nat.pow 2 (-q).toNat
  | _ => false

lemma exists_of_isPowerOfTen {x : Float} (h : isPowerOfTen k x = true) :
    ∃ m q hm, x.toModel.unpack = .finite .positive m q hm ∧ (m : ℚ) * 2 ^ q = 10 ^ k := by
  rw [isPowerOfTen] at h
  generalize x.toModel.unpack = u at h
  cases u with
  | notANumber => cases h
  | infinity => cases h
  | zero => cases h
  | finite s m q hm =>
    cases s with
    | negative => cases h
    | positive =>
      refine ⟨m, q, hm, rfl, ?_⟩
      have h : m * 2 ^ q.toNat = 10 ^ k * 2 ^ (-q).toNat := eq_of_beq h
      have h : ((m * 2 ^ q.toNat : Nat) : ℚ) = (10 ^ k * 2 ^ (-q).toNat : Nat) :=
        congrArg Nat.cast h
      push_cast at h
      rw [zpow_eq_div two_ne_zero, ← mul_div_assoc, h, mul_div_cancel_right₀ _ (by positivity)]

/-- The powers of ten up to the twenty-second one are exact. -/
lemma unpack_powerOfTen (hk : k < Float.exactlyRepresentablePowersOfTen.size) :
    ∃ m q hm, Float.exactlyRepresentablePowersOfTen[k].toModel.unpack =
      .finite .positive m q hm ∧ (m : ℚ) * 2 ^ q = 10 ^ k := by
  have table : ∀ (k : Nat) (hk : k < Float.exactlyRepresentablePowersOfTen.size),
      isPowerOfTen k Float.exactlyRepresentablePowersOfTen[k] = true := by
    decide +kernel
  exact exists_of_isPowerOfTen (table k hk)

/-- What is rounded to a finite number is greater than zero and less than the least infinity. -/
lemma Rounds.bounds (legal : Legal n q) (h : Rounds n q v) :
    (2 : ℚ) ^ (-1075 : Int) ≤ v ∧ v < 2 ^ (1024 : Int) := by
  obtain ⟨hgap, hgap'⟩ := @gapBelow_bounds n q
  have hpos : (1 : ℚ) ≤ n := by exact_mod_cast legal.pos
  have hmost : (n : ℚ) + 1 ≤ 2 ^ 53 := by exact_mod_cast legal.most
  constructor
  · calc (2 : ℚ) ^ (-1 + -1074 : Int) = 1 / 2 * 2 ^ (-1074 : Int) := by
          rw [zpow_add₀ two_ne_zero, zpow_neg_one, one_div]
      _ ≤ (n - gapBelow n q) * 2 ^ q :=
          mul_le_mul (by linarith) (zpow_le_zpow_right₀ one_le_two legal.low) (by positivity)
            (by linarith)
      _ ≤ v := h.low
  · calc v ≤ (n + 1 / 2) * 2 ^ q := h.high
      _ < 2 ^ 53 * 2 ^ q := mul_lt_mul_of_pos_right (by linarith) (by positivity)
      _ ≤ 2 ^ 53 * 2 ^ (971 : Int) :=
          mul_le_mul_of_nonneg_left (zpow_le_zpow_right₀ one_le_two legal.high) (by positivity)
      _ = 2 ^ ((53 : Nat) + 971 : Int) := by rw [zpow_add₀ two_ne_zero, zpow_natCast]

/-- Zero is rounded to no finite number that is not zero. -/
lemma Rounds.ne_zero (legal : Legal n q) (h : Rounds n q (m * 10 ^ e)) : m ≠ 0 := by
  rintro rfl
  have low := (h.bounds legal).1
  rw [Nat.cast_zero, zero_mul] at low
  exact absurd low (not_le.2 (by positivity))

lemma two_zpow_le_ten_zpow (h : 0 ≤ e) : (2 : ℚ) ^ e ≤ 10 ^ e :=
  zpow_le_zpow_left₀ h (by norm_num) (by norm_num)

/-- A decimal whose exponent is beyond all limits is rounded to no finite number. -/
lemma exponent_bounds (legal : Legal n q) (h : Rounds n q (m * 10 ^ e)) :
    e ≤ 2048 ∧ -(2048 + (m.log2 : Int)) ≤ e := by
  obtain ⟨hlow, hhigh⟩ := h.bounds legal
  have hm : m ≠ 0 := h.ne_zero legal
  have least : (1 : ℚ) ≤ m := by exact_mod_cast Nat.pos_of_ne_zero hm
  constructor
  · by_contra hlt
    have : (2 : ℚ) ^ (1024 : Int) ≤ m * 10 ^ e :=
      calc (2 : ℚ) ^ (1024 : Int) ≤ 2 ^ e := zpow_le_zpow_right₀ one_le_two (by omega)
        _ ≤ 10 ^ e := two_zpow_le_ten_zpow (by omega)
        _ ≤ m * 10 ^ e := le_mul_of_one_le_left (by positivity) least
    linarith
  · by_contra hlt
    have small : (10 : ℚ) ^ e ≤ 2 ^ e := by
      have := @two_zpow_le_ten_zpow (-e) (by omega)
      rw [zpow_neg, zpow_neg] at this
      exact (inv_le_inv₀ (by positivity) (by positivity)).1 this
    have bits : (m : ℚ) ≤ 2 ^ ((m.log2 : Int) + 1) := by
      exact_mod_cast Nat.lt_log2_self.le
    have : m * (10 : ℚ) ^ e < 2 ^ (-1075 : Int) :=
      calc m * (10 : ℚ) ^ e ≤ 2 ^ ((m.log2 : Int) + 1) * 2 ^ e :=
            mul_le_mul bits small (by positivity) (by positivity)
        _ = 2 ^ ((m.log2 : Int) + 1 + e) := (zpow_add₀ two_ne_zero _ _).symm
        _ < 2 ^ (-1075 : Int) := zpow_lt_zpow_right₀ one_lt_two (by omega)
    linarith

/-- A decimal is read exactly and then rounded. -/
lemma ofScientific_of_rounds (legal : Legal n q) (h : Rounds n q (m * 10 ^ e)) :
    UnpackedFloat.ofScientific .binary64 m e = .finite .positive n q legal.pos := by
  have hm : m ≠ 0 := h.ne_zero legal
  obtain ⟨hhigh, hlow⟩ := exponent_bounds legal h
  have hbits : (2 : Int) ^ Format.exponentBits .binary64 = 2048 := rfl
  have hmantissa : Format.mantissaBits .binary64 = 53 := rfl
  rw [UnpackedFloat.ofScientific, dif_neg hm, hbits, if_neg (not_lt.2 hhigh),
    if_neg (not_lt.2 hlow)]
  by_cases he : 0 ≤ e
  · rw [if_pos he]
    refine mul_of_rounds ?_ legal ?_
    · rw [hmantissa, Nat.shiftLeft_eq]
      exact (Nat.pow_le_pow_right two_pos (by omega)).trans
        (Nat.le_mul_of_pos_left _ (Nat.pos_of_ne_zero hm))
    · obtain ⟨k, rfl⟩ := Int.eq_ofNat_of_zero_le he
      have same : ((m <<< 53 : Nat) : ℚ) * 2 ^ (-(53 : Nat) : Int) *
          ((10 ^ k : Nat) * 2 ^ (0 : Int)) = m * 10 ^ (k : Int) := by
        rw [Nat.shiftLeft_eq, Nat.cast_mul, Nat.cast_pow, Nat.cast_pow, zpow_neg, zpow_natCast,
          zpow_natCast, zpow_zero, mul_one, Nat.cast_ofNat, Nat.cast_ofNat, mul_assoc (m : ℚ),
          mul_inv_cancel₀ (by positivity), mul_one]
      rw [hmantissa, Int.toNat_natCast, same]
      exact h
  · rw [if_neg he]
    refine div_of_rounds legal ?_
    obtain ⟨k, hk⟩ := Int.eq_ofNat_of_zero_le (by omega : 0 ≤ -e)
    obtain rfl : e = -k := by omega
    rw [neg_neg, Int.toNat_natCast, zpow_zero, mul_one, mul_one, Nat.cast_pow, Nat.cast_ofNat]
    rw [zpow_neg, zpow_natCast, ← div_eq_mul_inv] at h
    exact h

/-- Numbers up to the fifty-third bit are exact. -/
lemma value_ofUInt64 (hm : m ≠ 0) (h : m < 2 ^ 53) :
    ((m * 2 ^ (52 - m.log2) : Nat) : ℚ) * 2 ^ ((m.log2 : Int) - 52) = m := by
  have hlog : m.log2 < 53 := (Nat.log2_lt hm).2 h
  rw [Nat.cast_mul, Nat.cast_pow, Nat.cast_ofNat, mul_assoc, ← zpow_natCast,
    ← zpow_add₀ two_ne_zero, show ((52 - m.log2 : Nat) : Int) + (m.log2 - 52) = 0 by omega,
    zpow_zero, mul_one]

/-- Literals are read as the finite numbers that they are rounded to, be it by one operation on
exact numbers or exactly. -/
lemma unpack_ofScientific_of_rounds {negative : Bool} (legal : Legal n q)
    (h : Rounds n q (m * 10 ^ (if negative then -(k : Int) else k))) :
    (Float.ofScientific m negative k).toModel.unpack = .finite .positive n q legal.pos := by
  have hm : m ≠ 0 := h.ne_zero legal
  rw [Float.ofScientific]
  by_cases hexact : m < 2 ^ 53 ∧ k ≤ 22
  · rw [dif_pos hexact]
    obtain ⟨m₂, e₂, hpos, hpower, hvalue⟩ := unpack_powerOfTen (Nat.lt_succ_of_le hexact.2)
    -- both operands are exact here, so that the one operation rounds the exact value
    have whole := unpack_ofUInt64 hm hexact.1
    have hwhole := value_ofUInt64 hm hexact.1
    have full := full_of_lt hm hexact.1
    cases negative with
    | false =>
      have product (x : Float) (hx : x.toModel.unpack = .finite .positive m₂ e₂ hpos) :
          (m.toUInt64.toFloat * x).toModel.unpack = .finite .positive n q legal.pos := by
        change (Float.Model.mul (.ofUInt64 m.toUInt64) x.toModel).unpack = _
        rw [Float.Model.mul, whole, hx, mul_of_rounds full.least legal, Legal.unpack_pack legal]
        · rfl
        · rw [hwhole, hvalue, ← zpow_natCast]
          exact h
      exact product _ hpower
    | true =>
      have quotient (x : Float) (hx : x.toModel.unpack = .finite .positive m₂ e₂ hpos) :
          (m.toUInt64.toFloat / x).toModel.unpack = .finite .positive n q legal.pos := by
        change (Float.Model.div (.ofUInt64 m.toUInt64) x.toModel).unpack = _
        rw [Float.Model.div, whole, hx, div_of_rounds legal, Legal.unpack_pack legal]
        · rfl
        · rw [hwhole, hvalue, div_eq_mul_inv, ← zpow_natCast, ← zpow_neg]
          exact h
      exact quotient _ hpower
  · rw [dif_neg hexact]
    change (Float.Model.pack (UnpackedFloat.ofScientific .binary64 m _)).unpack = _
    rw [ofScientific_of_rounds legal, legal.unpack_pack]
    cases negative with
    | false => exact h
    | true =>
      rw [if_pos rfl, Int.negOfNat_eq]
      exact h

/-- A decimal is read as the finite number that it is rounded to. -/
lemma Decimal.toFloat_of_rounds {d : Decimal} (legal : Legal n q) (h : Rounds n q d.value) :
    d.toFloat.toModel.unpack = .finite .positive n q legal.pos := by
  rw [Decimal.value] at h
  rw [Decimal.toFloat]
  by_cases hd : d.exponent < 0
  · rw [if_pos hd]
    refine unpack_ofScientific_of_rounds legal ?_
    rw [if_pos rfl, show -(d.exponent.natAbs : Int) = d.exponent by omega]
    exact h
  · rw [if_neg hd]
    refine unpack_ofScientific_of_rounds legal ?_
    rw [if_neg Bool.false_ne_true, show (d.exponent.natAbs : Int) = d.exponent by omega]
    exact h

/-- A number that is not zero, taken apart. -/
lemma unpack_of_ofFloat {x : Float} {negative : Bool} (hx : Binary.ofFloat x = .finite negative m q)
    (hm : 0 < m) :
    x.toModel.unpack = .finite (if negative then .negative else .positive) m q hm := by
  rw [Binary.ofFloat] at hx
  cases h : x.toModel.unpack with
  | notANumber => rw [h] at hx; cases hx
  | infinity s => rw [h] at hx; cases hx
  | zero s =>
    rw [h] at hx
    cases hx
    exact absurd hm (Nat.lt_irrefl 0)
  | finite s n r hn =>
    rw [h] at hx
    cases s <;> cases hx <;> rfl

/-- A number that is not zero is read back from any decimal that is rounded to it, with its sign. -/
lemma signed_toFloat_of_rounds {x : Float} {negative : Bool} {d : Decimal}
    (hx : Binary.ofFloat x = .finite negative m q) (hm : 0 < m) (h : Rounds m q d.value) :
    signed negative d.toFloat = x := by
  have hx := unpack_of_ofFloat hx hm
  have legal := legal_of_unpack hx
  have hd := d.toFloat_of_rounds legal h
  cases negative with
  | false => exact eq_of_unpack hd hx
  | true =>
    have hneg : (-d.toFloat).toModel.unpack = .finite .negative m q hm := by
      change (Float.Model.neg d.toFloat.toModel).unpack = _
      rw [Float.Model.neg, hd]
      exact legal.unpack_pack
    exact eq_of_unpack hneg hx

end Reading

end Gamebook.Number
