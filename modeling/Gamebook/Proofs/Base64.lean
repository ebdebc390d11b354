import Gamebook.Text.Base64
import Mathlib.Tactic.Lemma

/-!
# Base64 reads back

What is written as Base64 is read as the same bytes, what is written are printable ASCII characters,
and only symbols and fillers are read. Main statements: `Text.Base64.decode_encode`,
`Text.Base64.mem_encode`, `Text.Base64.mem_of_decode`.
-/

namespace Gamebook.Text.Base64

/-- A symbol stands for its value. -/
lemma value?_symbol {v} (h : v < 64) : value? (symbol v) = some v :=
  (by decide : ∀ v < 64, value? (symbol v) = some v) v h

/-- No symbol is the filler. -/
lemma symbol_ne_filler {v} (h : v < 64) : symbol v ≠ filler :=
  (by decide : ∀ v < 64, symbol v ≠ filler) v h

/-- A byte is made up of its number. -/
lemma byte_eq {a : UInt8} {n : Nat} (h : n = a.toNat) : UInt8.ofNat n = a := by
  rw [h, UInt8.ofNat_toNat]

/-- A group of symbols has their values. -/
lemma groupValues_symbols {offset v₁ v₂ v₃ v₄} (h₁ : v₁ < 64) (h₂ : v₂ < 64) (h₃ : v₃ < 64)
    (h₄ : v₄ < 64) :
    groupValues offset [symbol v₁, symbol v₂, symbol v₃, symbol v₄] = .ok [v₁, v₂, v₃, v₄] := by
  simp only [groupValues, value?_symbol, h₁, h₂, h₃, h₄]
  rfl

/-- Reading one more symbol of the last group. -/
lemma LastGroup.read_symbol {offset index values last v bytes} (h : v < 64) :
    LastGroup.read offset index ⟨values, last, 0⟩ (symbol v :: bytes) =
      LastGroup.read offset (index + 1) ⟨values ++ [v], symbol v, 0⟩ bytes := by
  rw [LastGroup.read, if_neg (symbol_ne_filler h), if_neg (Nat.lt_irrefl 0), value?_symbol h]

/-- Reading one more filler of the last group. -/
lemma LastGroup.read_filler {offset index values last fillers bytes} (h : 2 ≤ index) :
    LastGroup.read offset index ⟨values, last, fillers⟩ (filler :: bytes) =
      LastGroup.read offset (index + 1) ⟨values, last, fillers + 1⟩ bytes := by
  rw [LastGroup.read, if_pos rfl, if_neg (Nat.not_lt.2 h)]

/-- A last group that one byte is written as. -/
lemma lastBytes_one {offset} {a : UInt8} :
    lastBytes offset (encode [a]) = .ok [a] := by
  have ha := a.toNat_lt
  have h₁ : a.toNat * 16 / 64 < 64 := by omega
  have h₂ : a.toNat * 16 % 64 < 64 := by omega
  simp only [encode, lastBytes, LastGroup.read_symbol, LastGroup.read_filler, h₁, h₂, Nat.le_refl,
    Nat.zero_add, Nat.reduceAdd, Nat.reduceLeDiff]
  simp only [LastGroup.read, List.nil_append, List.cons_append, List.length_cons, List.length_nil,
    Nat.zero_add, Nat.reduceAdd, Nat.reduceLT, Nat.reduceMod, Nat.reduceMul, Nat.reduceDiv,
    Nat.reduceSub, List.replicate, List.foldl, List.take, ne_eq, not_true, if_false]
  rw [if_neg, byte_eq (a := a) (by omega)]
  · simp only [Nat.pow_eq, Nat.reducePow]
    omega

/-- A last group that two bytes are written as. -/
lemma lastBytes_two {offset} {a b : UInt8} :
    lastBytes offset (encode [a, b]) = .ok [a, b] := by
  have ha := a.toNat_lt
  have hb := b.toNat_lt
  have h₁ : (a.toNat * 256 + b.toNat) * 4 / 4096 < 64 := by omega
  have h₂ : (a.toNat * 256 + b.toNat) * 4 / 64 % 64 < 64 := by omega
  have h₃ : (a.toNat * 256 + b.toNat) * 4 % 64 < 64 := by omega
  simp only [encode, lastBytes, LastGroup.read_symbol, LastGroup.read_filler, h₁, h₂, h₃,
    Nat.zero_add, Nat.reduceAdd, Nat.reduceLeDiff]
  simp only [LastGroup.read, List.nil_append, List.cons_append, List.length_cons, List.length_nil,
    Nat.zero_add, Nat.reduceAdd, Nat.reduceLT, Nat.reduceMod, Nat.reduceMul, Nat.reduceDiv,
    Nat.reduceSub, List.replicate, List.foldl, List.take, ne_eq, not_true, if_false]
  rw [if_neg, byte_eq (a := a) (by omega), byte_eq (a := b) (by omega)]
  · simp only [Nat.pow_eq, Nat.reducePow]
    omega

/-- A last group that three bytes are written as. -/
lemma lastBytes_three {offset} {a b c : UInt8} :
    lastBytes offset (encode [a, b, c]) = .ok [a, b, c] := by
  have ha := a.toNat_lt
  have hb := b.toNat_lt
  have hc := c.toNat_lt
  have h₁ : ((a.toNat * 256 + b.toNat) * 256 + c.toNat) / 262144 < 64 := by omega
  have h₂ : ((a.toNat * 256 + b.toNat) * 256 + c.toNat) / 4096 % 64 < 64 := by omega
  have h₃ : ((a.toNat * 256 + b.toNat) * 256 + c.toNat) / 64 % 64 < 64 := by omega
  have h₄ : ((a.toNat * 256 + b.toNat) * 256 + c.toNat) % 64 < 64 := by omega
  simp only [encode, lastBytes, LastGroup.read_symbol, h₁, h₂, h₃, h₄]
  simp only [LastGroup.read, List.nil_append, List.cons_append, List.length_cons, List.length_nil,
    Nat.zero_add, Nat.reduceAdd, Nat.reduceLT, Nat.reduceMod, Nat.reduceMul, Nat.reduceDiv,
    Nat.reduceSub, List.replicate, List.foldl, List.take, ne_eq, not_true, if_false,
    List.append_nil]
  rw [if_neg, byte_eq (a := a) (by omega), byte_eq (a := b) (by omega), byte_eq (a := c) (by omega)]
  · simp only [Nat.pow_eq, Nat.reducePow]
    omega

/-- A group that is not the last one gives back its three bytes. -/
lemma groupBytes_group {a b c : UInt8} :
    let n := (a.toNat * 256 + b.toNat) * 256 + c.toNat
    groupBytes [n / 262144, n / 4096 % 64, n / 64 % 64, n % 64] = [a, b, c] := by
  intro n
  have ha := a.toNat_lt
  have hb := b.toNat_lt
  have hc := c.toNat_lt
  have hn : n = (a.toNat * 256 + b.toNat) * 256 + c.toNat := rfl
  simp only [groupBytes, List.foldl]
  rw [byte_eq (a := a) (by omega), byte_eq (a := b) (by omega), byte_eq (a := c) (by omega)]

/-- What is written of some bytes is not empty. -/
lemma encode_ne_nil {a : UInt8} {bytes} : encode (a :: bytes) ≠ [] := by
  cases bytes with
  | nil => simp [encode]
  | cons b bytes =>
    cases bytes with
    | nil => simp [encode]
    | cons c bytes => simp [encode]

/-- What is written starts with the symbol of the first six bits. -/
lemma encode_cons {a : UInt8} {bytes} :
    ∃ symbols, encode (a :: bytes) = symbol (a.toNat / 4) :: symbols := by
  cases bytes with
  | nil =>
    have h : a.toNat * 16 / 64 = a.toNat / 4 := by omega
    exact ⟨_, by rw [encode, h]⟩
  | cons b bytes =>
    have hb := b.toNat_lt
    cases bytes with
    | nil =>
      have h : (a.toNat * 256 + b.toNat) * 4 / 4096 = a.toNat / 4 := by omega
      exact ⟨_, by rw [encode, h]⟩
    | cons c bytes =>
      have hc := c.toNat_lt
      have h : ((a.toNat * 256 + b.toNat) * 256 + c.toNat) / 262144 = a.toNat / 4 := by omega
      exact ⟨_, by rw [encode, h]⟩

/-- What is written from an offset on reads back. -/
lemma decodeFrom_encode {offset bytes} : decodeFrom offset (encode bytes) = .ok bytes := by
  fun_induction encode bytes generalizing offset with
  | case1 => rfl
  | case2 a => exact lastBytes_one
  | case3 a b => exact lastBytes_two
  | case4 a b c rest n =>
    rename_i ih
    have ha := a.toNat_lt
    have hb := b.toNat_lt
    have hc := c.toNat_lt
    have hn : n = (a.toNat * 256 + b.toNat) * 256 + c.toNat := rfl
    cases rest with
    | nil => exact lastBytes_three
    | cons d rest =>
      cases e : encode (d :: rest) with
      | nil => exact (encode_ne_nil e).elim
      | cons symbol' symbols =>
        rw [e] at ih
        rw [decodeFrom, groupValues_symbols (by omega) (by omega) (by omega) (by omega), ih]
        exact congrArg Except.ok (congrArg (· ++ d :: rest) groupBytes_group)

/-- What is written consists of whole groups. -/
lemma length_encode {bytes} : (encode bytes).length % 4 = 0 := by
  fun_induction encode bytes with
  | case1 => rfl
  | case2 => simp
  | case3 => simp
  | case4 a b c rest n ih => simpa [Nat.add_assoc] using ih

/-- What is written reads back as the same bytes. -/
lemma decode_encode {bytes} : decode (encode bytes) = .ok bytes := by
  have h : strayLast? (encode bytes) = none := by
    rw [strayLast?]
    cases (encode bytes).getLast? with
    | none => rfl
    | some b => simp [length_encode]
  rw [decode, h]
  exact decodeFrom_encode

/-- The symbols and the filler are letters, digits and signs of ASCII. -/
lemma mem_encode {bytes b} (h : b ∈ encode bytes) : b = filler ∨ ∃ v < 64, b = symbol v := by
  fun_induction encode bytes with
  | case1 => simp at h
  | case2 a n =>
    have ha := a.toNat_lt
    have hn : n = a.toNat * 16 := rfl
    simp only [List.mem_cons, List.not_mem_nil, or_false] at h
    obtain rfl | rfl | rfl | rfl := h
    · exact .inr ⟨_, by omega, rfl⟩
    · exact .inr ⟨_, by omega, rfl⟩
    · exact .inl rfl
    · exact .inl rfl
  | case3 a b n =>
    have ha := a.toNat_lt
    have hb := b.toNat_lt
    have hn : n = (a.toNat * 256 + b.toNat) * 4 := rfl
    simp only [List.mem_cons, List.not_mem_nil, or_false] at h
    obtain rfl | rfl | rfl | rfl := h
    · exact .inr ⟨_, by omega, rfl⟩
    · exact .inr ⟨_, by omega, rfl⟩
    · exact .inr ⟨_, by omega, rfl⟩
    · exact .inl rfl
  | case4 a b c rest n ih =>
    have ha := a.toNat_lt
    have hb := b.toNat_lt
    have hc := c.toNat_lt
    have hn : n = (a.toNat * 256 + b.toNat) * 256 + c.toNat := rfl
    simp only [List.mem_cons] at h
    obtain rfl | rfl | rfl | rfl | h := h
    · exact .inr ⟨_, by omega, rfl⟩
    · exact .inr ⟨_, by omega, rfl⟩
    · exact .inr ⟨_, by omega, rfl⟩
    · exact .inr ⟨_, by omega, rfl⟩
    · exact ih h

section Decode

variable {offset index : Nat} {bytes out : List UInt8} {b : UInt8}

/-- Whether a byte is a symbol or the filler. -/
def IsText (b : UInt8) : Prop :=
  b = filler ∨ (value? b).isSome = true

lemma mem_of_groupValues {values} (h : groupValues offset bytes = .ok values) (hb : b ∈ bytes) :
    IsText b := by
  induction bytes generalizing offset values with
  | nil => cases hb
  | cons a bytes ih =>
    rw [groupValues] at h
    cases ha : value? a with
    | none =>
      rw [ha] at h
      cases h
    | some v =>
      rw [ha] at h
      cases hrest : groupValues (offset + 1) bytes with
      | error fault =>
        rw [hrest] at h
        cases h
      | ok rest =>
        obtain rfl | hb := List.mem_cons.1 hb
        · exact .inr (by rw [ha]; rfl)
        · exact ih hrest hb

lemma LastGroup.mem_of_read {group group' : LastGroup}
    (h : LastGroup.read offset index group bytes = .ok group') (hb : b ∈ bytes) : IsText b := by
  induction bytes generalizing index group with
  | nil => cases hb
  | cons a bytes ih =>
    rw [LastGroup.read] at h
    split at h
    · next ha =>
      split at h
      · cases h
      · obtain rfl | hb := List.mem_cons.1 hb
        · exact .inl ha
        · exact ih h hb
    · split at h
      · cases h
      split at h
      · cases h
      · next v ha =>
        obtain rfl | hb := List.mem_cons.1 hb
        · exact .inr (by rw [ha]; rfl)
        · exact ih h hb

lemma mem_of_lastBytes (h : lastBytes offset bytes = .ok out) (hb : b ∈ bytes) : IsText b := by
  rw [lastBytes] at h
  cases hread : LastGroup.read offset 0 {} bytes with
  | error fault =>
    rw [hread] at h
    cases h
  | ok group => exact LastGroup.mem_of_read hread hb

lemma mem_of_decodeFrom (h : decodeFrom offset bytes = .ok out) (hb : b ∈ bytes) : IsText b := by
  fun_induction decodeFrom offset bytes generalizing out with
  | case1 => cases hb
  | case2 offset a₁ a₂ a₃ a₄ a₅ rest fault hgroup => cases h
  | case3 offset a₁ a₂ a₃ a₄ a₅ rest values hgroup ih =>
    cases hrest : decodeFrom (offset + 4) (a₅ :: rest) with
    | error fault =>
      rw [hrest] at h
      cases h
    | ok bytes =>
      obtain hb | hb := List.mem_append.1 (show b ∈ [a₁, a₂, a₃, a₄] ++ a₅ :: rest from hb)
      · exact mem_of_groupValues hgroup hb
      · exact ih hrest hb
  | case4 => exact mem_of_lastBytes h hb

/-- Only symbols and fillers are read as Base64. -/
lemma mem_of_decode (h : decode bytes = .ok out) (hb : b ∈ bytes) : IsText b := by
  rw [decode] at h
  cases hstray : strayLast? bytes with
  | some fault =>
    rw [hstray] at h
    cases h
  | none =>
    rw [hstray] at h
    exact mem_of_decodeFrom h hb

end Decode

end Gamebook.Text.Base64
