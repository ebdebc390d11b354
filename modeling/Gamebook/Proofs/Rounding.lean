import Gamebook.Proofs.ExactNumbers
import Mathlib.Tactic.FieldSimp
import Mathlib.Tactic.Linarith
import Mathlib.Tactic.Ring

/-!
# Rounding

A product or quotient of finite numbers is rounded to the number whose neighbours are no nearer. A
mantissa is shifted to 53 bits while two more bits tell what is left behind it, so that it is known
where the exact value lies. Main definitions: `Stands`, `Legal`, `Rounds`. Main statements:
`roundWithAccuracy_of_rounds`, `eq_of_unpack`.
-/

namespace Gamebook.Number

open Float.Model (Format UnpackedFloat totalExponent)
open Float.Model.UnpackedFloat

section Mantissas

/-- What a bit behind a mantissa is worth. -/
def half (bit : Bool) : ℚ :=
  if bit then 1 / 2 else 0

/-- Whether a mantissa and the two bits behind it stand for a number: the first bit is worth a half,
and the second one tells whether anything is left. -/
def Stands (em : ExtendedMantissa) (y : ℚ) : Prop :=
  ∃ left : ℚ, 0 ≤ left ∧ left < 1 / 2 ∧ (em.stickyBit = true ↔ left ≠ 0) ∧
    y = em.mantissa + half em.roundBit + left

variable {em : ExtendedMantissa} {y : ℚ} {m : Nat}

lemma half_bounds {bit : Bool} : 0 ≤ half bit ∧ half bit ≤ 1 / 2 := by
  cases bit with
  | false => exact ⟨le_rfl, by norm_num [half]⟩
  | true => exact ⟨by norm_num [half], le_rfl⟩

lemma Stands.floor (h : Stands em y) : (em.mantissa : ℚ) ≤ y ∧ y < em.mantissa + 1 := by
  obtain ⟨left, hleft, hleft', -, rfl⟩ := h
  obtain ⟨hbit, hbit'⟩ := @half_bounds em.roundBit
  constructor <;> linarith

lemma Stands.shiftRightOne (h : Stands em y) : Stands em.shiftRightOne (y / 2) := by
  obtain ⟨left, hleft, hleft', sticky, rfl⟩ := h
  obtain ⟨m, first, second⟩ := em
  have parts : (m : ℚ) = 2 * (m / 2 : Nat) + (m % 2 : Nat) := by
    exact_mod_cast (Nat.div_add_mod m 2).symm
  have last : half (m % 2 != 0) = (m % 2 : Nat) / 2 := by
    rcases Nat.mod_two_eq_zero_or_one m with h | h
    · rw [h]
      norm_num [half]
    · rw [h]
      norm_num [half]
  obtain ⟨hbit, hbit'⟩ := @half_bounds first
  refine ⟨half first / 2 + left / 2, by linarith, by linarith, ?_, ?_⟩
  · change (first || second) = true ↔ _
    cases first with
    | true =>
      have : half true = 1 / 2 := rfl
      exact iff_of_true rfl (by linarith)
    | false =>
      have : half false = 0 := rfl
      rw [Bool.false_or, sticky, this, zero_div, zero_add]
      exact (div_ne_zero_iff.trans (and_iff_left two_ne_zero)).symm
  · change _ = ((m / 2 : Nat) : ℚ) + half (m % 2 != 0) + _
    rw [last, parts]
    ring

lemma Stands.shiftRight (h : Stands em y) {k : Nat} : Stands (em >>> k) (y / 2 ^ k) := by
  change Stands (Nat.repeat ExtendedMantissa.shiftRightOne k em) _
  induction k with
  | zero => rwa [pow_zero, div_one]
  | succ k ih =>
    rw [pow_succ, ← div_div]
    exact ih.shiftRightOne

lemma mantissa_ofMantissaAndAccuracy {a : Accuracy} :
    (ExtendedMantissa.ofMantissaAndAccuracy m a).mantissa = m := by
  cases a with
  | exact => rfl
  | inexact order => cases order <;> rfl

/-- A mantissa with nothing behind it stands for itself. -/
lemma stands_exact : Stands (.ofMantissaAndAccuracy m .exact) m :=
  ⟨0, le_rfl, by norm_num, iff_of_false Bool.false_ne_true (not_not.2 rfl), by
    change (m : ℚ) = m + 0 + 0
    rw [add_zero, add_zero]⟩

/-- The quotient of a division and what its remainder tells stand for the fraction. -/
lemma stands_div {a b : Nat} (hb : 0 < b) :
    Stands (.ofMantissaAndAccuracy (a / b) (accuracyOfFraction (a % b) b)) (a / b : ℚ) := by
  have hb' : (0 : ℚ) < b := by exact_mod_cast hb
  have less : ((a % b : Nat) : ℚ) < b := by exact_mod_cast Nat.mod_lt a hb
  have parts : (a : ℚ) / b = (a / b : Nat) + (a % b : Nat) / b := by
    have : (a : ℚ) = b * (a / b : Nat) + (a % b : Nat) := by
      exact_mod_cast (Nat.div_add_mod a b).symm
    field_simp
    exact this
  rw [parts, accuracyOfFraction]
  generalize a % b = r at less
  split
  · next h =>
    rw [h, Nat.cast_zero, zero_div, add_zero]
    exact stands_exact
  · next h =>
    have pos : (0 : ℚ) < r := by exact_mod_cast Nat.pos_of_ne_zero h
    have pos' : (0 : ℚ) < r / b := div_pos pos hb'
    cases hc : compare (2 * r) b with
    | lt =>
      have hlt : (2 * r : ℚ) < b := by exact_mod_cast Nat.compare_eq_lt.1 hc
      refine ⟨r / b, pos'.le, ?_, iff_of_true rfl pos'.ne', ?_⟩
      · rw [div_lt_div_iff₀ hb' two_pos]
        linarith
      · change _ = ((a / b : Nat) : ℚ) + 0 + _
        rw [add_zero]
    | eq =>
      have heq : (2 * r : ℚ) = b := by exact_mod_cast Nat.compare_eq_eq.1 hc
      refine ⟨0, le_rfl, by norm_num, iff_of_false Bool.false_ne_true (not_not.2 rfl), ?_⟩
      change _ = ((a / b : Nat) : ℚ) + 1 / 2 + 0
      rw [add_zero, ← heq]
      field_simp
    | gt =>
      have hgt : (b : ℚ) < 2 * r := by exact_mod_cast Nat.compare_eq_gt.1 hc
      refine ⟨r / b - 1 / 2, ?_, ?_, iff_of_true rfl ?_, ?_⟩
      · rw [sub_nonneg, div_le_div_iff₀ two_pos hb']
        linarith
      · rw [sub_lt_iff_lt_add, div_lt_iff₀ hb']
        linarith
      · rw [sub_ne_zero]
        intro h
        rw [div_eq_div_iff hb'.ne' two_ne_zero] at h
        linarith
      · change _ = ((a / b : Nat) : ℚ) + 1 / 2 + _
        ring

/-- Less than a half is dropped. -/
lemma roundedMantissa_of_lt_half {n : Nat} {sticky : Bool} {left : ℚ} (hleft : 0 ≤ left)
    (hleft' : left < 1 / 2) (hlow : (n : ℚ) - 1 / 2 ≤ m + left) (hhigh : m + left ≤ n + 1 / 2) :
    (ExtendedMantissa.mk m false sticky).roundedMantissa = n := by
  have above : n < m + 1 := by
    exact_mod_cast (by linarith : (n : ℚ) < m + 1)
  have below : m < n + 1 := by
    exact_mod_cast (by linarith : (m : ℚ) < n + 1)
  have same : m = n := by omega
  cases sticky <;> exact same

/-- A half goes to the even neighbour. -/
lemma roundedMantissa_of_half {n : Nat} (hlow : (n : ℚ) - 1 / 2 ≤ m + 1 / 2)
    (hhigh : (m + 1 / 2 : ℚ) ≤ n + 1 / 2)
    (htie : n % 2 = 1 → (n : ℚ) - 1 / 2 < m + 1 / 2 ∧ (m + 1 / 2 : ℚ) < n + 1 / 2) :
    (ExtendedMantissa.mk m true false).roundedMantissa = n := by
  have above : n ≤ m + 1 := by
    exact_mod_cast (by linarith : (n : ℚ) ≤ m + 1)
  have below : m ≤ n := by
    exact_mod_cast (by linarith : (m : ℚ) ≤ n)
  have even : n % 2 = 0 := by
    by_contra h
    -- there is no whole number strictly between the neighbours
    obtain ⟨hlow, hhigh⟩ := htie (Nat.mod_two_ne_zero.1 h)
    have above : n < m + 1 := by
      exact_mod_cast (by linarith : (n : ℚ) < m + 1)
    have below : m < n := by
      exact_mod_cast (by linarith : (m : ℚ) < n)
    omega
  change m + m % 2 = n
  omega

/-- More than a half goes up. -/
lemma roundedMantissa_of_half_lt {n : Nat} {left : ℚ} (hleft : 0 < left) (hleft' : left < 1 / 2)
    (hlow : (n : ℚ) - 1 / 2 ≤ m + 1 / 2 + left) (hhigh : m + 1 / 2 + left ≤ n + 1 / 2) :
    (ExtendedMantissa.mk m true true).roundedMantissa = n := by
  have above : n < m + 2 := by
    exact_mod_cast (by linarith : (n : ℚ) < m + 2)
  have below : m < n := by
    exact_mod_cast (by linarith : (m : ℚ) < n)
  change m + 1 = n
  omega

/-- A mantissa is rounded to the whole number that is nearest to what it stands for, and to an even
one of two. -/
lemma Stands.roundedMantissa (h : Stands em y) {n : Nat} (hlow : (n : ℚ) - 1 / 2 ≤ y)
    (hhigh : y ≤ n + 1 / 2) (htie : n % 2 = 1 → (n : ℚ) - 1 / 2 < y ∧ y < n + 1 / 2) :
    em.roundedMantissa = n := by
  obtain ⟨left, hleft, hleft', nonzero, rfl⟩ := h
  obtain ⟨m, first, sticky⟩ := em
  cases first with
  | false =>
    have worth : half false = 0 := rfl
    rw [worth, add_zero] at hlow hhigh
    exact roundedMantissa_of_lt_half hleft hleft' hlow hhigh
  | true =>
    have worth : half true = 1 / 2 := rfl
    rw [worth] at hlow hhigh htie
    cases sticky with
    | false =>
      have nothing : left = 0 := by
        by_contra h
        exact Bool.false_ne_true (nonzero.2 h)
      rw [nothing, add_zero] at hlow hhigh htie
      exact roundedMantissa_of_half hlow hhigh htie
    | true =>
      have more : 0 < left := lt_of_le_of_ne hleft (nonzero.1 rfl).symm
      exact roundedMantissa_of_half_lt more hleft' hlow hhigh

end Mantissas

section Rounding

/-- Whether `m · 2 ^ q` is a finite number of 64 bits: the mantissa is full, or the exponent is the
least one. -/
structure Legal (m : Nat) (q : Int) : Prop where
  /-- Zero has no mantissa. -/
  pos : 0 < m
  /-- The mantissa has at most 53 bits. -/
  most : m < 2 ^ 53
  /-- The exponent is not too small. -/
  low : -1074 ≤ q
  /-- The exponent is not too large. -/
  high : q ≤ 971
  /-- A mantissa that is not full has the least exponent. -/
  full : 2 ^ 52 ≤ m ∨ q = -1074

/-- Half of the way to the number below, in units of the last bit. Below a power of two the numbers
are twice as close. -/
def gapBelow (m : Nat) (q : Int) : ℚ :=
  if m = 2 ^ 52 ∧ -1074 < q then 1 / 4 else 1 / 2

/-- Whether a rational lies halfway between the neighbours of `m · 2 ^ q`, or on an end if the
mantissa is even. -/
structure Rounds (m : Nat) (q : Int) (v : ℚ) : Prop where
  /-- The lower end. -/
  low : (m - gapBelow m q) * 2 ^ q ≤ v
  /-- The upper end. -/
  high : v ≤ (m + 1 / 2) * 2 ^ q
  /-- The ends belong to an even mantissa. -/
  inside : m % 2 = 1 → (m - gapBelow m q) * 2 ^ q < v ∧ v < (m + 1 / 2) * 2 ^ q

variable {m n : Nat} {e q t : Int} {a : Accuracy} {s : Sign} {v w y : ℚ}

lemma targetExponent_totalExponent :
    Format.targetExponent .binary64 (totalExponent m e) = max (m.log2 + e - 52) (-1074) := by
  rw [totalExponent, targetExponent_eq]
  omega

lemma gapBelow_bounds : 0 < gapBelow m q ∧ gapBelow m q ≤ 1 / 2 := by
  rw [gapBelow]
  split <;> norm_num

/-- A finite number is not shifted. -/
lemma Legal.shift (h : Legal m q) :
    shiftToTargetExponent .binary64 m q .exact = (⟨m, false, false⟩, q) := by
  have hlog : m.log2 < 53 := (Nat.log2_lt h.pos.ne').2 h.most
  have low := h.low
  have hk : (max ((m.log2 : Int) + q - 52) (-1074) - q).toNat = 0 := by
    omega
  rw [shiftToTargetExponent, shiftToExponent, targetExponent_totalExponent, hk]
  exact Prod.ext rfl (Int.add_zero q)

/-- Where the last bit of a mantissa ends up when it is shifted. -/
structure Shifted (w : ℚ) (t : Int) : Prop where
  /-- The mantissa has at most 53 bits. -/
  most : w < 2 ^ 53
  /-- The exponent is not too small. -/
  low : -1074 ≤ t
  /-- A mantissa that is not full has the least exponent. -/
  full : t = -1074 ∨ 2 ^ 52 ≤ w

/-- A mantissa with enough bits is shifted to 53 of them or to the least exponent. -/
lemma Stands.shiftToTarget (h : Stands (.ofMantissaAndAccuracy m a) y)
    (enough : 2 ^ 52 ≤ m ∨ e ≤ -1074) :
    ∃ em t w, shiftToTargetExponent .binary64 m e a = (em, t) ∧ Stands em w ∧ Shifted w t ∧
      w * 2 ^ t = y * 2 ^ e := by
  obtain ⟨hlow, hhigh⟩ := h.floor
  rw [mantissa_ofMantissaAndAccuracy] at hlow hhigh
  have hlog : 2 ^ 52 ≤ m → 52 ≤ m.log2 := fun hm => (Nat.le_log2 (by omega)).2 hm
  obtain ⟨k, hk⟩ : ∃ k : Nat, max ((m.log2 : Int) + e - 52) (-1074) = e + k :=
    ⟨(max ((m.log2 : Int) + e - 52) (-1074) - e).toNat, by omega⟩
  have hshift : shiftToTargetExponent .binary64 m e a =
      (ExtendedMantissa.ofMantissaAndAccuracy m a >>> k, e + k) := by
    rw [shiftToTargetExponent, shiftToExponent, targetExponent_totalExponent, hk]
    simp only [add_sub_cancel_left, Int.toNat_natCast]
  have hpow : (0 : ℚ) < 2 ^ k := pow_pos two_pos k
  refine ⟨_, _, y / 2 ^ k, hshift, h.shiftRight, ⟨?_, by omega, ?_⟩, ?_⟩
  · have bits : m + 1 ≤ 2 ^ 53 * 2 ^ k := by
      rw [← pow_add]
      exact Nat.lt_log2_self.trans_le (Nat.pow_le_pow_right two_pos (by omega))
    have bits : ((m + 1 : Nat) : ℚ) ≤ (2 ^ 53 * 2 ^ k : Nat) := Nat.cast_le.2 bits
    push_cast at bits
    rw [div_lt_iff₀ hpow]
    exact hhigh.trans_le bits
  · by_cases least : e + k = -1074
    · exact .inl least
    · have hm : m ≠ 0 := by
        rintro rfl
        rw [Nat.log2_zero] at hk
        omega
      have bits : 2 ^ 52 * 2 ^ k ≤ m := by
        rw [← pow_add]
        exact (Nat.pow_le_pow_right two_pos (by omega)).trans (Nat.log2_self_le hm)
      have bits : ((2 ^ 52 * 2 ^ k : Nat) : ℚ) ≤ m := Nat.cast_le.2 bits
      push_cast at bits
      rw [le_div_iff₀ hpow]
      exact .inr (bits.trans hlow)
  · rw [add_comm, zpow_add₀ two_ne_zero, zpow_natCast, ← mul_assoc, div_mul_cancel₀ _ hpow.ne']

/-- A number that is shifted less far than the number it rounds to is rounded up to the power of two
above. -/
lemma Shifted.rounds_of_lt {em : ExtendedMantissa} (hs : Stands em w) (h : Shifted w t)
    (legal : Legal n q) (hr : Rounds n q (w * 2 ^ t)) (hlt : t < q) :
    em.roundedMantissa = 2 ^ 53 ∧ n = 2 ^ 52 ∧ t = q - 1 := by
  obtain ⟨hgap, hgap'⟩ := @gapBelow_bounds n q
  have below := h.low
  have most := h.most
  have full : 2 ^ 52 ≤ n := legal.full.resolve_right (by omega)
  have near : (n - gapBelow n q) * 2 ^ (q - t) ≤ w := by
    have scale : (2 : ℚ) ^ q = 2 ^ (q - t) * 2 ^ t := by
      rw [← zpow_add₀ two_ne_zero, sub_add_cancel]
    refine le_of_mul_le_mul_right ?_ (zpow_pos two_pos t)
    rw [mul_assoc, ← scale]
    exact hr.low
  have least : n = 2 ^ 52 := by
    by_contra hne
    have more : ((2 ^ 52 + 1 : Nat) : ℚ) ≤ n := Nat.cast_le.2 (by omega)
    push_cast at more
    have twice : (2 : ℚ) ^ (1 : Int) ≤ 2 ^ (q - t) := zpow_le_zpow_right₀ one_le_two (by omega)
    have : (2 ^ 52 + 1 / 2 : ℚ) * 2 ^ (1 : Int) ≤ (n - gapBelow n q) * 2 ^ (q - t) :=
      mul_le_mul (by linarith) twice (by norm_num) (by linarith)
    norm_num at this
    linarith
  have hgap : gapBelow n q = 1 / 4 := if_pos ⟨least, by omega⟩
  rw [hgap, least] at near
  push_cast at near
  -- by two places or more it would have more than 53 bits
  have next : t = q - 1 := by
    by_contra hne
    have fourfold : (2 : ℚ) ^ (2 : Int) ≤ 2 ^ (q - t) := zpow_le_zpow_right₀ one_le_two (by omega)
    have : (2 ^ 52 - 1 / 4 : ℚ) * 2 ^ (2 : Int) ≤ (2 ^ 52 - 1 / 4) * 2 ^ (q - t) :=
      mul_le_mul_of_nonneg_left fourfold (by norm_num)
    norm_num at this
    linarith
  refine ⟨hs.roundedMantissa ?_ ?_ ?_, least, next⟩
  · rw [next, sub_sub_cancel, zpow_one] at near
    push_cast
    linarith
  · push_cast
    linarith
  · intro odd
    cases odd

/-- A number that is shifted as far as the number it rounds to is rounded to it. -/
lemma Stands.rounds {em : ExtendedMantissa} (hs : Stands em w) (hr : Rounds n q (w * 2 ^ q)) :
    em.roundedMantissa = n := by
  obtain ⟨hgap, hgap'⟩ := @gapBelow_bounds n q
  have hpow : (0 : ℚ) < 2 ^ q := zpow_pos two_pos q
  refine hs.roundedMantissa ?_ ?_ ?_
  · have := le_of_mul_le_mul_right hr.low hpow
    linarith
  · exact le_of_mul_le_mul_right hr.high hpow
  · intro odd
    obtain ⟨hlow, hhigh⟩ := hr.inside odd
    have := lt_of_mul_lt_mul_right hlow hpow.le
    exact ⟨by linarith, lt_of_mul_lt_mul_right hhigh hpow.le⟩

/-- No number is shifted farther than the number it rounds to. -/
lemma Shifted.le_of_rounds (h : Shifted w t) (legal : Legal n q) (hr : Rounds n q (w * 2 ^ t)) :
    t ≤ q := by
  by_contra hgt
  have above := legal.low
  have hmost : (n : ℚ) + 1 ≤ 2 ^ 53 := by exact_mod_cast legal.most
  have full : 2 ^ 52 ≤ w := h.full.resolve_left (by omega)
  have near : w * 2 ^ (t - q) ≤ n + 1 / 2 := by
    have scale : (2 : ℚ) ^ t = 2 ^ (t - q) * 2 ^ q := by
      rw [← zpow_add₀ two_ne_zero, sub_add_cancel]
    refine le_of_mul_le_mul_right ?_ (zpow_pos two_pos q)
    rw [mul_assoc, ← scale]
    exact hr.high
  have twice : (2 : ℚ) ^ (1 : Int) ≤ 2 ^ (t - q) := zpow_le_zpow_right₀ one_le_two (by omega)
  have : (2 ^ 52 : ℚ) * 2 ^ (1 : Int) ≤ w * 2 ^ (t - q) :=
    mul_le_mul full twice (by norm_num) (by linarith)
  norm_num at this
  linarith

/-- A number that is shifted rounds where it lies, or up to the power of two above. -/
lemma Shifted.rounds {em : ExtendedMantissa} (hs : Stands em w) (h : Shifted w t)
    (legal : Legal n q) (hr : Rounds n q (w * 2 ^ t)) :
    em.roundedMantissa = n ∧ t = q ∨ em.roundedMantissa = 2 ^ 53 ∧ n = 2 ^ 52 ∧ t = q - 1 := by
  obtain hlt | rfl := (h.le_of_rounds legal hr).lt_or_eq
  · exact .inr (h.rounds_of_lt hs legal hr hlt)
  · exact .inl ⟨hs.rounds hr, rfl⟩

/-- A number is rounded to the finite number that it rounds to. -/
lemma roundWithAccuracy_of_rounds (h : Stands (.ofMantissaAndAccuracy m a) y)
    (enough : 2 ^ 52 ≤ m ∨ e ≤ -1074) (legal : Legal n q) (hr : Rounds n q (y * 2 ^ e)) :
    roundWithAccuracy .binary64 s m e a = .finite s n q legal.pos := by
  obtain ⟨em, t, w, hshift, hstands, hshifted, hw⟩ := h.shiftToTarget enough
  rw [← hw] at hr
  obtain ⟨hround, rfl⟩ | ⟨hround, rfl, rfl⟩ := hshifted.rounds hstands legal hr
  · have again : shiftToTargetExponent .binary64 em.roundedMantissa t .exact =
        (⟨n, false, false⟩, t) := by
      rw [hround]
      exact legal.shift
    exact roundWithAccuracy_eq hshift again legal.pos
  · have full : Full (2 ^ 52) q := ⟨le_rfl, legal.most, legal.low, legal.high⟩
    have again : shiftToTargetExponent .binary64 (2 ^ 53) (q - 1) .exact =
        (⟨2 ^ 52, false, false⟩, q) := full.shift (k := 1)
    exact roundWithAccuracy_eq hshift (hround ▸ again) legal.pos

/-- The product of finite numbers is rounded to what it rounds to. -/
lemma mul_of_rounds {m₁ m₂ : Nat} {e₁ e₂ : Int} {s₁ s₂ : Sign} {h₁ : 0 < m₁} {h₂ : 0 < m₂}
    (enough : 2 ^ 52 ≤ m₁) (legal : Legal n q)
    (hr : Rounds n q (m₁ * 2 ^ e₁ * (m₂ * 2 ^ e₂))) :
    UnpackedFloat.mul .binary64 (.finite s₁ m₁ e₁ h₁) (.finite s₂ m₂ e₂ h₂) =
      .finite (s₁ * s₂) n q legal.pos := by
  refine roundWithAccuracy_of_rounds stands_exact ?_ legal ?_
  · exact .inl (enough.trans (Nat.le_mul_of_pos_right m₁ h₂))
  · rw [Nat.cast_mul, zpow_add₀ two_ne_zero, ← mul_mul_mul_comm]
    exact hr

/-- The quotient of finite numbers is rounded to what it rounds to. -/
lemma div_of_rounds {m₁ m₂ : Nat} {e₁ e₂ : Int} {s₁ s₂ : Sign} {h₁ : 0 < m₁} {h₂ : 0 < m₂}
    (legal : Legal n q) (hr : Rounds n q (m₁ * 2 ^ e₁ / (m₂ * 2 ^ e₂))) :
    UnpackedFloat.div .binary64 (.finite s₁ m₁ e₁ h₁) (.finite s₂ m₂ e₂ h₂) =
      .finite (s₁ / s₂) n q legal.pos := by
  have target : Format.targetExponent .binary64 (totalExponent m₁ e₁ - totalExponent m₂ e₂) =
      max ((m₁.log2 : Int) + e₁ - (m₂.log2 + e₂) - 53) (-1074) := by
    rw [totalExponent, totalExponent, targetExponent_eq]
    omega
  obtain ⟨k, hk⟩ : ∃ k : Nat, min (e₁ - e₂)
      (max ((m₁.log2 : Int) + e₁ - (m₂.log2 + e₂) - 53) (-1074)) = e₁ - e₂ - k :=
    ⟨(e₁ - e₂ - min (e₁ - e₂)
      (max ((m₁.log2 : Int) + e₁ - (m₂.log2 + e₂) - 53) (-1074))).toNat, by omega⟩
  have core : divCore .binary64 m₁ e₁ m₂ e₂ =
      (m₁ * 2 ^ k / m₂, e₁ - e₂ - k, accuracyOfFraction (m₁ * 2 ^ k % m₂) m₂) := by
    rw [divCore, target, hk]
    simp only [sub_sub_cancel, Int.toNat_natCast, Nat.shiftLeft_eq]
  change roundWithAccuracy .binary64 (s₁ / s₂) (divCore .binary64 m₁ e₁ m₂ e₂).1
    (divCore .binary64 m₁ e₁ m₂ e₂).2.1 (divCore .binary64 m₁ e₁ m₂ e₂).2.2 = _
  rw [core]
  refine roundWithAccuracy_of_rounds (stands_div h₂) ?_ legal ?_
  -- the dividend is shifted so far that the quotient has 53 bits or the least exponent
  · by_cases least : e₁ - e₂ - k ≤ -1074
    · exact .inr least
    · refine .inl ((Nat.le_div_iff_mul_le h₂).2 ?_)
      calc 2 ^ 52 * m₂ ≤ 2 ^ 52 * 2 ^ (m₂.log2 + 1) :=
            Nat.mul_le_mul_left _ Nat.lt_log2_self.le
        _ ≤ 2 ^ (m₁.log2 + k) := by
            rw [← pow_add]
            exact Nat.pow_le_pow_right two_pos (by omega)
        _ ≤ m₁ * 2 ^ k := by
            rw [pow_add]
            exact Nat.mul_le_mul_right _ (Nat.log2_self_le h₁.ne')
  · have scale : (2 : ℚ) ^ k * 2 ^ (e₁ - e₂ - k) = 2 ^ e₁ / 2 ^ e₂ := by
      rw [← zpow_natCast, ← zpow_add₀ two_ne_zero, add_sub_cancel, zpow_sub₀ two_ne_zero]
    have same : ((m₁ * 2 ^ k : Nat) : ℚ) / m₂ * 2 ^ (e₁ - e₂ - k) =
        m₁ * 2 ^ e₁ / (m₂ * 2 ^ e₂) := by
      rw [Nat.cast_mul, Nat.cast_pow, Nat.cast_ofNat, div_mul_eq_mul_div, mul_assoc, scale,
        ← mul_div_assoc, div_div, mul_comm (2 ^ e₂ : ℚ)]
    rw [same]
    exact hr

/-- Packing loses nothing of a mantissa that is not full. -/
lemma unpack_pack_least (h : 0 < m) (hm : m < 2 ^ 52) :
    (Float.Model.pack (.finite s m (-1074) h)).unpack = .finite s m (-1074) h := by
  have hmantissa : (BitVec.ofNat 52 m).toNat = m := by
    rw [BitVec.toNat_ofNat, Nat.mod_eq_of_lt hm]
  change unpack .binary64 (pack .binary64 _) = _
  rw [pack_least ((Nat.log2_lt h.ne').2 hm), unpack_least]
  · refine finite_congr unpackSign_packComponents_eq ?_ rfl
    rw [unpackMantissa_packComponents]
    exact hmantissa
  · rw [unpackExponent_packComponents]
  · rw [unpackMantissa_packComponents, hmantissa]
    exact h

/-- Packing loses nothing. -/
lemma Legal.unpack_pack (h : Legal m q) :
    (Float.Model.pack (.finite s m q h.pos)).unpack = .finite s m q h.pos := by
  by_cases normal : 2 ^ 52 ≤ m
  · have full : Full m q := ⟨normal, h.most, h.low, h.high⟩
    exact full.unpack_pack
  · obtain rfl := h.full.resolve_left normal
    exact unpack_pack_least h.pos (Nat.lt_of_not_le normal)

end Rounding

section Bits

variable {m : Nat} {q : Int} {s : Sign} {b : BitVec (Format.numBits .binary64)}

lemma toBitVec_ofBitVec {b : BitVec 1} : (Sign.ofBitVec b).toBitVec = b := by
  obtain rfl | rfl := BitVec.eq_zero_or_eq_one b <;> rfl

/-- The three parts of the bits make them up. -/
lemma packComponents_unpack :
    packComponents .binary64 (Sign.ofBitVec (unpackSign b)) (unpackExponent b) (unpackMantissa b) =
      b := by
  have sign : unpackSign b = .cast rfl (b.extractLsb 63 63) := rfl
  rw [packComponents, toBitVec_ofBitVec, sign, unpackExponent, unpackMantissa]
  apply BitVec.eq_of_getLsbD_eq
  intro i hi
  change i < 64 at hi
  simp only [BitVec.getLsbD_append, BitVec.getLsbD_cast, BitVec.getLsbD_extractLsb]
  split
  · rw [decide_eq_true (by omega), Bool.true_and, Nat.zero_add]
  · split
    · rw [decide_eq_true (by omega), Bool.true_and, Nat.add_sub_cancel' (by omega)]
    · rw [decide_eq_true (by omega), Bool.true_and, show 52 + 11 + (i - 52 - 11) = i by omega]

lemma unpackMantissa_lt : (unpackMantissa b).toNat < 2 ^ 52 :=
  (unpackMantissa b).isLt

lemma unpackExponent_lt : (unpackExponent b).toNat < 2 ^ 11 :=
  (unpackExponent b).isLt

/-- The parts of the bits of a finite number, with the least exponent or with a full mantissa. -/
lemma unpack_eq_finite {hm : 0 < m} (h : unpack .binary64 b = .finite s m q hm) :
    s = Sign.ofBitVec (unpackSign b) ∧
      (unpackExponent b = 0#11 ∧ m = (unpackMantissa b).toNat ∧ q = -1074 ∨
        0 < (unpackExponent b).toNat ∧ (unpackExponent b).toNat < 2047 ∧
          m = 2 ^ 52 + (unpackMantissa b).toNat ∧ q = (unpackExponent b).toNat - 1075) := by
  by_cases last : unpackExponent b = -1#11
  · obtain ⟨_, read⟩ | read := unpack_last last
    · cases read.symm.trans h
    · cases read.symm.trans h
  · by_cases least : unpackExponent b = 0#11
    · by_cases zero : unpackMantissa b = 0#52
      · cases (unpack_zero least zero).symm.trans h
      · have some : 0 < (unpackMantissa b).toNat :=
          Nat.pos_of_ne_zero fun e => zero (BitVec.eq_of_toNat_eq e)
        cases (unpack_least least some).symm.trans h
        exact ⟨rfl, .inl ⟨least, rfl, rfl⟩⟩
    · have some : 0 < (1#1 ++ unpackMantissa b).toNat := by
        rw [toNat_append_one]
        omega
      have notFirst : (unpackExponent b).toNat ≠ 0 := fun e => least (BitVec.eq_of_toNat_eq e)
      have notLast : (unpackExponent b).toNat ≠ 2047 := fun e => last (BitVec.eq_of_toNat_eq e)
      have exponents := @unpackExponent_lt b
      cases (unpack_full last least some).symm.trans h
      exact ⟨rfl, .inr ⟨by omega, by omega, toNat_append_one, rfl⟩⟩

/-- The bits of a finite number are packed again. -/
lemma pack_unpack {hm : 0 < m} (h : unpack .binary64 b = .finite s m q hm) :
    pack .binary64 (.finite s m q hm) = b := by
  have bits := @unpackMantissa_lt b
  conv_rhs => rw [← @packComponents_unpack b]
  obtain ⟨rfl, ⟨least, rfl, rfl⟩ | ⟨-, normal, rfl, rfl⟩⟩ := unpack_eq_finite h
  · rw [pack_least ((Nat.log2_lt hm.ne').2 bits), least, BitVec.ofNat_toNat, BitVec.setWidth_eq]
  · have hlog : (2 ^ 52 + (unpackMantissa b).toNat).log2 = 52 :=
      (Nat.log2_eq_iff hm.ne').2 ⟨by omega, by omega⟩
    have drop : BitVec.ofNat 52 (2 ^ 52 + (unpackMantissa b).toNat) = unpackMantissa b := by
      apply BitVec.eq_of_toNat_eq
      rw [BitVec.toNat_ofNat, Nat.add_mod_left, Nat.mod_eq_of_lt bits]
    rw [pack_full (Int.sub_add_cancel _ _) normal hlog, BitVec.ofNat_toNat, BitVec.setWidth_eq,
      drop]

/-- A number that is taken apart is a finite number of 64 bits. -/
lemma legal_of_unpack {x : Float.Model} {hm : 0 < m} (h : x.unpack = .finite s m q hm) :
    Legal m q := by
  have bits := @unpackMantissa_lt x.toBits.toBitVec
  obtain ⟨-, ⟨-, hm', hq⟩ | ⟨least, normal, hm', hq⟩⟩ := unpack_eq_finite h
  · exact ⟨hm, by omega, by omega, by omega, .inr hq⟩
  · exact ⟨hm, by omega, by omega, by omega, .inl (by omega)⟩

/-- Numbers that are taken apart into the same finite number are the same. -/
lemma eq_of_unpack {x y : Float} {hm : 0 < m} (hx : x.toModel.unpack = .finite s m q hm)
    (hy : y.toModel.unpack = .finite s m q hm) : x = y := by
  have bits : x.toModel.toBits.toBitVec = y.toModel.toBits.toBitVec :=
    (pack_unpack hx).symm.trans (pack_unpack hy)
  obtain ⟨⟨⟨x⟩, _⟩⟩ := x
  obtain ⟨⟨⟨y⟩, _⟩⟩ := y
  cases bits
  rfl

end Bits

end Gamebook.Number
