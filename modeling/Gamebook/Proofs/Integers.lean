import Gamebook.Proofs.Decimals
import Gamebook.Proofs.Numerals
import Gamebook.Proofs.StateText

/-!
# Small integers

The integer that a number is written as has the value of the number. A number that is written as a
fraction has a mantissa. Main statements: `alike_of_smallInteger?`, `ofFloat_of_smallInteger?`.
-/

namespace Gamebook.Number

open Float.Model.UnpackedFloat

variable {x y : Float} {m n : Nat} {q : Int} {s : Sign}

lemma lt_iff : x < y ↔ x.toModel.unpack.compare y.toModel.unpack = some .lt := by
  change decide (x.toModel.unpack.lt y.toModel.unpack = true) = true ↔ _
  rw [decide_eq_true_iff]
  exact beq_iff_eq

/-- A number between the bounds of small integers has less than 53 bits before its point. -/
lemma bits_of_small {hm : 0 < m} (hx : x.toModel.unpack = .finite s m q hm) (hlow : -9.0e15 < x)
    (hhigh : x < 9.0e15) : q < 0 ∨ q = 0 ∧ m < 9000000000000000 := by
  rw [lt_iff, hx] at hlow hhigh
  have upper : (9.0e15 : Float).toModel.unpack =
      .finite .positive 9000000000000000 0 (by decide) := rfl
  have lower : (-9.0e15 : Float).toModel.unpack =
      .finite .negative 9000000000000000 0 (by decide) := rfl
  cases s with
  | positive =>
    rw [upper] at hhigh
    have h : (compare q 0).then (compare m 9000000000000000) = .lt := Option.some.inj hhigh
    rw [Ordering.then_eq_lt, Int.compare_eq_lt, Int.compare_eq_eq, Nat.compare_eq_lt] at h
    exact h
  | negative =>
    rw [lower] at hlow
    have h : ((compare 0 q).then (compare 9000000000000000 m)).swap = .lt := Option.some.inj hlow
    rw [Ordering.swap_eq_lt, Ordering.then_eq_gt, Int.compare_eq_gt, Int.compare_eq_eq,
      Nat.compare_eq_gt] at h
    exact h.imp_right fun h => ⟨h.1.symm, h.2⟩

/-- A whole number, taken apart, is shifted to the left as far as it goes. -/
lemma Legal.whole (h : Legal m q) (hq : q ≤ 0) (hn : m = n * 2 ^ (-q).toNat) :
    n ≠ 0 ∧ n < 2 ^ 53 ∧ m = n * 2 ^ (52 - n.log2) ∧ q = n.log2 - 52 := by
  obtain ⟨k, rfl⟩ : ∃ k : Nat, q = -(k : Int) := ⟨(-q).toNat, by omega⟩
  rw [neg_neg, Int.toNat_natCast] at hn
  have hpos : n ≠ 0 := by
    rintro rfl
    exact h.pos.ne' (hn.trans (Nat.zero_mul _))
  have full : 2 ^ 52 ≤ m := by
    refine h.full.resolve_right fun hk => ?_
    have : 2 ^ 53 ≤ m := by
      rw [hn]
      exact (Nat.pow_le_pow_right two_pos (by omega)).trans
        (Nat.le_mul_of_pos_left _ (Nat.pos_of_ne_zero hpos))
    exact absurd h.most (Nat.not_lt.2 this)
  have most := h.most
  have low : 2 ^ (n.log2 + k) ≤ m := by
    rw [hn, pow_add]
    exact Nat.mul_le_mul_right _ (Nat.log2_self_le hpos)
  have high : m < 2 ^ (n.log2 + 1 + k) := by
    rw [hn, pow_add]
    exact Nat.mul_lt_mul_of_pos_right Nat.lt_log2_self (by positivity)
  have upper : n.log2 + k < 53 := (Nat.pow_lt_pow_iff_right one_lt_two).1 (low.trans_lt most)
  have lower : 52 < n.log2 + 1 + k := (Nat.pow_lt_pow_iff_right one_lt_two).1 (full.trans_lt high)
  have less : n ≤ m := hn ▸ Nat.le_mul_of_pos_right n (by positivity)
  refine ⟨hpos, less.trans_lt most, ?_, by omega⟩
  rw [hn, show k = 52 - n.log2 by omega]

/-- A natural number and its negation are numbers with the parts of the natural number. -/
lemma unpack_ofInt {negative : Bool} (hn : n ≠ 0) (h : n < 2 ^ 53) :
    (Float.ofInt (if negative then -n else n)).toModel.unpack =
      .finite (if negative then .negative else .positive) (n * 2 ^ (52 - n.log2)) (n.log2 - 52)
        (full_of_lt hn h).pos := by
  have full := full_of_lt hn h
  have legal : Legal (n * 2 ^ (52 - n.log2)) (n.log2 - 52) :=
    ⟨full.pos, full.most, full.low, full.high, .inl full.least⟩
  cases negative with
  | false => exact unpack_ofNat hn h
  | true =>
    obtain ⟨k, rfl⟩ := Nat.exists_eq_succ_of_ne_zero hn
    change (Float.Model.neg (Float.ofNat (k + 1)).toModel).unpack = _
    rw [Float.Model.neg, unpack_ofNat hn h]
    exact legal.unpack_pack

/-- A zero is a small integer. -/
lemma smallInteger?_zero (hx : x.toModel.unpack = .zero s) : smallInteger? x = some 0 := by
  have low : -9.0e15 < x := by
    rw [lt_iff, hx]
    rfl
  have high : x < 9.0e15 := by
    rw [lt_iff, hx]
    rfl
  rw [smallInteger?, decide_eq_true low, decide_eq_true high]
  simp only [Bool.and_self, if_true, integer?, Binary.ofFloat, hx]
  cases s <;> rfl

lemma isFinite_of_integer? {i : Int} (h : integer? x = some i) : x.isFinite = true := by
  change x.toModel.unpack.isFinite = true
  rw [integer?, Binary.ofFloat] at h
  cases e : x.toModel.unpack with
  | notANumber =>
    rw [e] at h
    cases h
  | infinity s =>
    rw [e] at h
    cases h
  | zero s => rfl
  | finite s m q hm => rfl

lemma isFinite_of_smallInteger? {i : Int} (h : smallInteger? x = some i) : x.isFinite = true := by
  rw [smallInteger?] at h
  split at h
  · exact isFinite_of_integer? h
  · cases h

/-- The integer of a number that is one. -/
lemma integer?_finite {hm : 0 < m} {i : Int} (hx : x.toModel.unpack = .finite s m q hm)
    (hq : q ≤ 0) (h : integer? x = some i) :
    ∃ (n : Nat) (negative : Bool), m = n * 2 ^ (-q).toNat ∧
      s = (if negative then .negative else .positive) ∧ i = if negative then -(n : Int) else n := by
  rw [integer?, Binary.ofFloat, hx] at h
  simp only [Nat.pow_eq] at h
  split at h
  · next hwhole =>
    have hdvd : m % 2 ^ (-q).toNat = 0 := by
      rcases hwhole with hwhole | hwhole
      · obtain rfl : q = 0 := by omega
        exact Nat.mod_one m
      · exact hwhole
    have shifted : (if 0 ≤ q then m * 2 ^ q.toNat else m / 2 ^ (-q).toNat) =
        m / 2 ^ (-q).toNat := by
      split
      · obtain rfl : q = 0 := by omega
        exact (Nat.mul_one m).trans (Nat.div_one m).symm
      · rfl
    rw [shifted] at h
    have hn := (Nat.div_mul_cancel (Nat.dvd_of_mod_eq_zero hdvd)).symm
    cases s with
    | negative => exact ⟨_, true, hn, rfl, (Option.some.inj h).symm⟩
    | positive => exact ⟨_, false, hn, rfl, (Option.some.inj h).symm⟩
  · cases h

/-- The integer that a small number is written as is less than nine quadrillion, and it is that
number, or a zero of the other sign. -/
lemma alike_of_smallInteger? {i : Int} (h : smallInteger? x = some i) :
    i.natAbs < 9000000000000000 ∧
      Scalar.Alike (.number x) (.number (Json.Number.int i).toFloat) := by
  have hi := h
  rw [smallInteger?] at h
  split at h
  · next hbounds =>
    rw [Bool.and_eq_true, decide_eq_true_iff, decide_eq_true_iff] at hbounds
    cases hx : x.toModel.unpack with
    | notANumber =>
      rw [integer?, Binary.ofFloat, hx] at h
      cases h
    | infinity s =>
      rw [integer?, Binary.ofFloat, hx] at h
      cases h
    | zero s =>
      obtain rfl : 0 = i := Option.some.inj ((smallInteger?_zero hx).symm.trans hi)
      refine ⟨by decide, .number ?_⟩
      change x.toModel.unpack.beq (Float.ofInt 0).toModel.unpack = true
      rw [hx]
      cases s <;> rfl
    | finite s m q hm =>
      -- no bit is lost behind the point, so the integer is the number itself
      have hq := bits_of_small hx hbounds.1 hbounds.2
      obtain ⟨n, negative, hn, rfl, rfl⟩ := integer?_finite hx (by omega) h
      have legal := legal_of_unpack hx
      obtain ⟨hpos, hmost, rfl, rfl⟩ := legal.whole (by omega) hn
      refine ⟨?_, ?_⟩
      · have small : n < 9000000000000000 := by
          rcases hq with hq | hq
          · have := (@Nat.log2_lt n 52 hpos).1 (by omega)
            omega
          · exact (Nat.le_mul_of_pos_right n (by positivity)).trans_lt hq.2
        cases negative with
        | true => simpa using small
        | false => simpa using small
      · rw [eq_of_unpack hx (unpack_ofInt hpos hmost)]
        exact .refl
  · cases h

/-- A finite number that is not written as an integer is not zero. -/
lemma ofFloat_of_smallInteger? (hx : x.isFinite = true) (h : smallInteger? x = none) :
    ∃ negative m q, Binary.ofFloat x = .finite negative m q ∧ 0 < m := by
  obtain ⟨negative, m, q, e⟩ := ofFloat_of_isFinite hx
  refine ⟨negative, m, q, e, ?_⟩
  rw [Binary.ofFloat] at e
  cases hunpack : x.toModel.unpack with
  | notANumber => rw [hunpack] at e; cases e
  | infinity s => rw [hunpack] at e; cases e
  | zero s =>
    rw [smallInteger?_zero hunpack] at h
    cases h
  | finite s n r hn =>
    rw [hunpack] at e
    cases e
    exact hn

end Gamebook.Number
