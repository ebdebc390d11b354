import Gamebook.Proofs.PieceText
import Gamebook.Proofs.PlainStory

/-!
# Plain texts

What holds of the characters of names and of prose, which are lower-case letters, digits and spaces.
Main definition: `Text.Plain`. Main statements: `Text.plain_of_isProse`, `Text.plain_of_isName`,
`Text.exists_of_isComparison`.
-/

namespace Gamebook.Text

/-- Whether a character is a lower-case letter, a digit or a space. -/
def isPlainChar (c : Char) : Bool :=
  c.isLower || c.isDigit || c == ' '

/-- What holds of every lower-case letter holds of a given one. -/
lemma forall_isLower {p : Char → Bool} (hp : ∀ n < 26, p (Char.ofNat (97 + n)) = true) {c : Char}
    (h : c.isLower = true) : p c = true := by
  have hc : 97 ≤ c.toNat ∧ c.toNat ≤ 122 := by
    have h : (decide (c.val ≥ 'a'.val) && decide (c.val ≤ 'z'.val)) = true := h
    simpa [UInt32.le_iff_toNat_le] using h
  have := hp (c.toNat - 97) (by omega)
  rwa [Nat.add_sub_cancel' hc.1, Char.ofNat_toNat] at this

/-- What holds of every digit holds of a given one. -/
lemma forall_isDigit {p : Char → Bool} (hp : ∀ n < 10, p (Char.ofNat (48 + n)) = true) {c : Char}
    (h : c.isDigit = true) : p c = true := by
  have hc : 48 ≤ c.toNat ∧ c.toNat ≤ 57 := by
    simpa [Char.isDigit, UInt32.le_iff_toNat_le] using h
  have := hp (c.toNat - 48) (by omega)
  rwa [Nat.add_sub_cancel' hc.1, Char.ofNat_toNat] at this

/-- What holds of every plain character holds of a given one. -/
lemma forall_isPlainChar {p : Char → Bool} (hl : ∀ n < 26, p (Char.ofNat (97 + n)) = true)
    (hd : ∀ n < 10, p (Char.ofNat (48 + n)) = true) (hs : p ' ' = true) {c : Char}
    (h : isPlainChar c = true) : p c = true := by
  rw [isPlainChar, Bool.or_eq_true, Bool.or_eq_true, beq_iff_eq] at h
  obtain (h | h) | rfl := h
  · exact forall_isLower hl h
  · exact forall_isDigit hd h
  · exact hs

/-- A plain character is no sign of running text. -/
lemma isInert_of_isPlainChar {c} (h : isPlainChar c = true) : Markup.isInert c = true :=
  forall_isPlainChar (by decide) (by decide) rfl h

/-- A character of some kind is none of those that are not. -/
lemma ne_of_kind {p : Char → Bool} {c d : Char} (h : p c = true) (hd : p d = false) : c ≠ d := by
  rintro rfl
  rw [h] at hd
  cases hd

/-- Plain text with no space at its ends. -/
structure Plain (cs : List Char) : Prop where
  /-- There is some text. -/
  ne : cs ≠ []
  /-- It has no other characters. -/
  chars : ∀ c ∈ cs, isPlainChar c = true
  /-- It starts with no space. -/
  first : cs.head? ≠ some ' '
  /-- It ends with no space. -/
  last : cs.getLast? ≠ some ' '

/-- Prose is plain. -/
lemma plain_of_isProse {cs} (h : isProse cs = true) : Plain cs := by
  rw [isProse, Bool.and_eq_true, Bool.and_eq_true] at h
  obtain ⟨⟨hfirst, hlast⟩, hall⟩ := h
  refine ⟨?_, ?_, ?_, ?_⟩
  · rintro rfl
    cases hfirst
  · intro c hc
    have := List.all_eq_true.1 hall c hc
    rw [Bool.or_eq_true] at this
    obtain h | h := this <;> simp [isPlainChar, h]
  · intro e
    rw [e] at hfirst
    cases hfirst
  · intro e
    rw [e] at hlast
    cases hlast

/-- Prose starts with a letter. -/
lemma isProse_cons {cs} (h : isProse cs = true) : ∃ c ds, cs = c :: ds ∧ c.isLower = true := by
  rw [isProse, Bool.and_eq_true, Bool.and_eq_true] at h
  cases cs with
  | nil => cases h.1.1
  | cons c cs => exact ⟨c, cs, rfl, h.1.1⟩

/-- The characters of a name are letters and digits. -/
lemma isName_chars {cs} (h : isName cs = true) : ∀ c ∈ cs, c.isLower = true ∨ c.isDigit = true := by
  rw [isName, Bool.and_eq_true] at h
  intro c hc
  have := List.all_eq_true.1 h.2 c hc
  rwa [Bool.or_eq_true] at this

/-- A name is plain. -/
lemma plain_of_isName {cs} (h : isName cs = true) : Plain cs := by
  have hchars := isName_chars h
  have hspace : ' ' ∉ cs := fun hmem => (hchars ' ' hmem).elim (by decide) (by decide)
  refine ⟨?_, ?_, ?_, ?_⟩
  · rintro rfl
    cases h
  · intro c hc
    obtain h | h := hchars c hc <;> simp [isPlainChar, h]
  · exact fun e => hspace (List.mem_of_mem_head? (by rw [e]; rfl))
  · exact fun e => hspace (List.mem_of_getLast? e)

/-- Plain text is one piece. -/
lemma Plain.settled {cs} (h : Plain cs) : Markup.Settled cs := by
  refine ⟨h.ne, fun c hc => isInert_of_isPlainChar (h.chars c hc), ?_⟩
  intro c hc
  refine ⟨fun e => h.last (by rw [hc, e]), ?_⟩
  exact ne_of_kind (h.chars c (List.mem_of_getLast? hc)) rfl

/-- A comparison is a name in braces that is compared with one. -/
lemma exists_of_isComparison {cs} (h : isComparison cs = true) :
    ∃ name, isName name = true ∧ cs = '\x7b' :: (name ++ "\x7d > 1".toList) := by
  rw [isComparison, Option.any_eq_true] at h
  obtain ⟨name, hname, h⟩ := h
  obtain ⟨rest, hrest, hname⟩ := Option.bind_eq_some_iff.1 hname
  rw [dropSuffix?, Option.map_eq_some_iff] at hname
  obtain ⟨back, hback, rfl⟩ := hname
  rw [dropPrefix?_eq_some_iff] at hrest hback
  refine ⟨back.reverse, h, ?_⟩
  rw [hrest, ← List.reverse_reverse rest, hback, List.reverse_append, List.reverse_reverse]
  rfl

end Gamebook.Text
