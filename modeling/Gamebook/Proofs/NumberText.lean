import Gamebook.Number.Written
import Mathlib.Tactic.Lemma

/-!
# Texts of numbers

Equal numbers are displayed alike, also zeros of different signs, and what is displayed consists of
digits, a sign, a point and the letters of `NaN` and `inf`. Main statements: `Number.display_congr`,
`Number.mem_display`.
-/

namespace Gamebook.Number

/-- A number that is not finite has no text in a document but `null`. -/
lemma fractionText_of_not_isFinite {x : Float} (h : ¬x.isFinite = true) :
    fractionText x = ['n', 'u', 'l', 'l'] := by
  have h : x.toModel.unpack.isFinite ≠ true := h
  rw [fractionText, Binary.ofFloat]
  cases e : x.toModel.unpack with
  | infinity s => rfl
  | notANumber => rfl
  | zero s =>
    rw [e] at h
    exact (h rfl).elim
  | finite s m q hm =>
    rw [e] at h
    exact (h rfl).elim

/-- Numbers that compare equal have the same parts, or are zeros. -/
lemma ofFloat_congr {x y : Float} (h : (x == y) = true) :
    Binary.ofFloat x = Binary.ofFloat y ∨
      ∃ s t, Binary.ofFloat x = .finite s 0 0 ∧ Binary.ofFloat y = .finite t 0 0 := by
  have h : x.toModel.unpack.beq y.toModel.unpack = true := h
  rw [Binary.ofFloat, Binary.ofFloat]
  generalize x.toModel.unpack = u at h
  generalize y.toModel.unpack = v at h
  have h : u.compare v = some .eq := beq_iff_eq.1 h
  -- numbers of different kinds never compare equal, nor do numbers of different signs but zeros
  cases u with
  | notANumber => cases h
  | infinity s =>
    cases v with
    | notANumber => cases h
    | infinity t =>
      suffices s = t by
        rw [this]
        exact .inl rfl
      cases s <;> cases t <;> first | rfl | cases h
    | zero t => cases s <;> cases h
    | finite t n r hn => cases s <;> cases h
  | zero s =>
    cases v with
    | notANumber => cases h
    | infinity t => cases t <;> cases h
    | zero t => exact .inr ⟨_, _, rfl, rfl⟩
    | finite t n r hn => cases t <;> cases h
  | finite s m q hm =>
    cases v with
    | notANumber => cases s <;> cases h
    | infinity t => cases s <;> cases t <;> cases h
    | zero t => cases s <;> cases h
    | finite t n r hn =>
      suffices s = t ∧ q = r ∧ m = n by
        obtain ⟨rfl, rfl, rfl⟩ := this
        exact .inl rfl
      cases s with
      | positive =>
        cases t with
        | positive =>
          have h : (compare q r).then (compare m n) = .eq := Option.some.inj h
          rw [Ordering.then_eq_eq] at h
          exact ⟨rfl, Std.compare_eq_iff_eq.1 h.1, Std.compare_eq_iff_eq.1 h.2⟩
        | negative => cases h
      | negative =>
        cases t with
        | positive => cases h
        | negative =>
          have h : ((compare q r).then (compare m n)).swap = .eq := Option.some.inj h
          rw [Ordering.swap_eq_eq, Ordering.then_eq_eq] at h
          exact ⟨rfl, Std.compare_eq_iff_eq.1 h.1, Std.compare_eq_iff_eq.1 h.2⟩

/-- Equal numbers are displayed alike. -/
lemma display_congr {x y : Float} (h : (x == y) = true) : display x = display y := by
  obtain h | ⟨s, t, hx, hy⟩ := ofFloat_congr h
  · rw [display, display, h]
  · rw [display, display, hx, hy]
    rfl

/-- The characters that numbers are displayed with. -/
def Displayed (c : Char) : Prop :=
  c.isDigit = true ∨ c ∈ ['-', '.', 'N', 'a', 'i', 'n', 'f']

/-- Digits are displayed. -/
lemma displayed_of_mem_text {d : Decimal} {c} (h : c ∈ d.text) : Displayed c :=
  .inl (Nat.isDigit_of_mem_toDigits (by decide) (by decide) h)

/-- A decimal without an exponent consists of digits and a point. -/
lemma displayed_of_mem_positional {b} {d : Decimal} {c} (h : c ∈ d.positional b) : Displayed c := by
  have zero {n} (h : c ∈ List.replicate n '0') : Displayed c := by
    rw [List.eq_of_mem_replicate h]
    exact .inl rfl
  rw [Decimal.positional] at h
  split at h
  · rw [List.mem_append, List.mem_append] at h
    obtain (h | h) | h := h
    · exact displayed_of_mem_text h
    · exact zero h
    · cases b with
      | true =>
        obtain rfl | rfl : c = '.' ∨ c = '0' := by simpa using h
        · exact .inr (by decide)
        · exact .inl rfl
      | false => cases h
  · simp only at h
    split at h
    · rw [List.mem_append, List.mem_cons] at h
      obtain h | rfl | h := h
      · exact displayed_of_mem_text (List.mem_of_mem_take h)
      · exact .inr (by decide)
      · exact displayed_of_mem_text (List.mem_of_mem_drop h)
    · rw [List.cons_append, List.cons_append, List.mem_cons, List.mem_cons, List.mem_append] at h
      obtain rfl | rfl | h | h := h
      · exact .inl rfl
      · exact .inr (by decide)
      · exact zero h
      · exact displayed_of_mem_text h

/-- What is displayed of a number consists of such characters. -/
lemma mem_display {x c} (h : c ∈ (display x).toList) : Displayed c := by
  have sign {s} (h : c ∈ signText s) : Displayed c := by
    cases s with
    | true =>
      rw [List.mem_singleton.1 h]
      exact .inr (by decide)
    | false => cases h
  have names : ∀ c ∈ "NaN".toList ++ ['i', 'n', 'f'], Displayed c := by
    intro c h
    have hletters : ("NaN".toList ++ ['i', 'n', 'f']).all
      (· ∈ ['-', '.', 'N', 'a', 'i', 'n', 'f']) := rfl
    exact .inr (of_decide_eq_true (List.all_eq_true.1 hletters c h))
  rw [display] at h
  split at h
  · exact names c (List.mem_append_left _ h)
  · rw [String.toList_ofList, List.mem_append] at h
    obtain h | h := h
    · exact sign h
    · exact names c (List.mem_append_right _ h)
  · split at h
    · obtain rfl : c = '0' := by simpa using h
      exact .inl rfl
    · rw [String.toList_ofList, List.mem_append] at h
      obtain h | h := h
      · exact sign h
      · exact displayed_of_mem_positional h

end Gamebook.Number
