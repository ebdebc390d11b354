import Gamebook.Json.Reader
import Mathlib.Tactic.Lemma

/-!
# Numbers inside of documents

A number that is read from a text of its own is read in the same way where the text stands in front
of a comma, a closing bracket or the end. Main definitions: `Json.readNumber`, `Json.Stops`. Main
statement: `Json.readNumber_append`.
-/

namespace Gamebook.Json

/-- Reads a number with its sign. -/
def readNumber : List Char → Except Fault (Number × List Char)
  | '-' :: cs => number true cs
  | cs => number false cs

/-- Whether a text does not go on with a number that ends before it. -/
def Stops (rest : List Char) : Prop :=
  ∀ c ∈ rest.head?, c.isDigit = false ∧ c ≠ '.' ∧ c ≠ 'e' ∧ c ≠ 'E'

variable {rest : List Char}

/-- At the end of the text a number stops. -/
lemma Stops.nil : Stops [] :=
  by rintro _ ⟨⟩

/-- A number stops at a comma and at a closing bracket. -/
lemma Stops.cons {c cs} (h : c = ',' ∨ c = '}' ∨ c = ']') : Stops (c :: cs) := by
  intro d hd
  cases hd
  obtain rfl | rfl | rfl := h <;> decide

/-- The digits of a text are its digits in front of another text. -/
lemma Stops.takeWhile (hr : Stops rest) (cs) :
    (cs ++ rest).takeWhile Char.isDigit = cs.takeWhile Char.isDigit := by
  induction cs with
  | nil =>
    cases rest with
    | nil => rfl
    | cons c rest => simp [(hr c rfl).1]
  | cons c cs ih => by_cases h : c.isDigit <;> simp [h, ih]

/-- What comes after the digits of a text comes after them in front of another text. -/
lemma Stops.dropWhile (hr : Stops rest) (cs) :
    (cs ++ rest).dropWhile Char.isDigit = cs.dropWhile Char.isDigit ++ rest := by
  induction cs with
  | nil =>
    cases rest with
    | nil => rfl
    | cons c rest => simp [(hr c rfl).1]
  | cons c cs ih => by_cases h : c.isDigit <;> simp [h, ih]

/-- More digits, in front of another text. -/
lemma moreDigits_append {n cs} (hr : Stops rest) :
    moreDigits n (cs ++ rest) =
      ((moreDigits n cs).1, (moreDigits n cs).2.1, (moreDigits n cs).2.2.1,
        (moreDigits n cs).2.2.2 ++ rest) := by
  induction cs generalizing n with
  | nil =>
    cases rest with
    | nil => rfl
    | cons c rest => simp [moreDigits, (hr c rfl).1]
  | cons c cs ih =>
    by_cases hc : c.isDigit
    · by_cases hn : n * 10 + Number.digitValue c ≤ maxSignificand
      · simp [moreDigits, hc, hn, ih]
      · have ht := hr.takeWhile (c :: cs)
        rw [List.cons_append] at ht
        simp only [List.cons_append, moreDigits, hc, hn, if_true, if_false, ht, hr.dropWhile]
    · simp [moreDigits, hc]

/-- The sign of a text is its sign in front of another text. -/
lemma splitSign_append {c cs} :
    Number.splitSign (c :: cs ++ rest) =
      ((Number.splitSign (c :: cs)).1, (Number.splitSign (c :: cs)).2 ++ rest) := by
  by_cases h₁ : c = '-'
  · subst h₁
    rfl
  · by_cases h₂ : c = '+'
    · subst h₂
      rfl
    · simp [Number.splitSign, h₁, h₂]

/-- A result whose rest is followed by another text. -/
def andThen {α : Type} (rest : List Char) (result : Except Fault (α × List Char)) :
    Except Fault (α × List Char) :=
  result.map fun (a, r) => (a, r ++ rest)

lemma ok_of_andThen {α : Type} {result result' : Except Fault (α × List Char)} {a r}
    (e : result' = andThen rest result) (h : result = .ok (a, r)) :
    result' = .ok (a, r ++ rest) := by
  rw [e, h]
  rfl

/-- What is made of a piece that reads the same in front of another text reads the same there. -/
lemma map_append {α β : Type} (make : α → β) {piece piece' : Except Fault (α × List Char)} {b r}
    (same : ∀ {a r}, piece = .ok (a, r) → piece' = .ok (a, r ++ rest))
    (h : piece.map (fun p => (make p.1, p.2)) = .ok (b, r)) :
    piece'.map (fun p => (make p.1, p.2)) = .ok (b, r ++ rest) := by
  cases e : piece with
  | error fault =>
    rw [e] at h
    cases h
  | ok result =>
    rw [e] at h
    cases h
    rw [same e]
    rfl

/-- An exponent, in front of another text. -/
lemma exponentPart_append {n point cs x r} (hr : Stops rest)
    (h : exponentPart n point cs = .ok (x, r)) :
    exponentPart n point (cs ++ rest) = .ok (x, r ++ rest) := by
  cases cs with
  | nil => cases h
  | cons c cs =>
    rcases hs : Number.splitSign (c :: cs) with ⟨negative, digits⟩
    simp only [exponentPart, splitSign_append, hs] at h ⊢
    cases digits with
    | nil => cases h
    | cons d digits =>
      refine ok_of_andThen ?_ h
      have ht := hr.takeWhile (d :: digits)
      have hd := hr.dropWhile (d :: digits)
      rw [List.cons_append] at ht hd
      simp only [List.cons_append, ht, hd]
      split
      · split
        · split <;> rfl
        · cases scaled n _ <;> rfl
      · rfl

/-- An exponent or the end of a number, in front of another text. -/
lemma exponentOrEnd_append {n point cs x r} (hr : Stops rest)
    (h : exponentOrEnd n point cs = .ok (x, r)) :
    exponentOrEnd n point (cs ++ rest) = .ok (x, r ++ rest) := by
  cases cs with
  | nil =>
    refine ok_of_andThen ?_ h
    cases rest with
    | nil =>
      simp only [List.nil_append, exponentOrEnd]
      cases scaled n point <;> rfl
    | cons c rest =>
      have hc := hr c rfl
      simp only [List.nil_append, exponentOrEnd, hc.2.2.1, hc.2.2.2, or_self, if_false]
      cases scaled n point <;> rfl
  | cons c cs =>
    rw [List.cons_append]
    rw [exponentOrEnd] at h ⊢
    split at h
    · next hc =>
      rw [if_pos hc]
      exact exponentPart_append hr h
    · next hc =>
      rw [if_neg hc]
      refine ok_of_andThen ?_ h
      cases scaled n point <;> rfl

/-- The digits after the point, in front of another text. -/
lemma fractionPart_append {n point cs x r} (hr : Stops rest)
    (h : fractionPart n point cs = .ok (x, r)) :
    fractionPart n point (cs ++ rest) = .ok (x, r ++ rest) := by
  cases cs with
  | nil => cases h
  | cons c cs =>
    rw [List.cons_append]
    rw [fractionPart] at h ⊢
    split at h
    · next hc =>
      have hm := @moreDigits_append rest n (c :: cs) hr
      rw [List.cons_append] at hm
      simp only [hm, hc, if_true]
      exact exponentOrEnd_append hr h
    · cases h

/-- A number without a point and an exponent, in front of another text. -/
lemma whole_append {negative n dropped cs m r}
    (h : afterDigits.whole negative n dropped cs (Number.signed negative) = .ok (m, r)) :
    afterDigits.whole negative n dropped (cs ++ rest) (Number.signed negative) =
      .ok (m, r ++ rest) := by
  refine ok_of_andThen ?_ h
  simp only [afterDigits.whole]
  split
  · cases scaled n dropped <;> rfl
  · split
    · split <;> rfl
    · rfl

/-- A number after its digits, in front of another text. -/
lemma afterDigits_append {negative n dropped cs m r} (hr : Stops rest)
    (h : afterDigits negative n dropped cs = .ok (m, r)) :
    afterDigits negative n dropped (cs ++ rest) = .ok (m, r ++ rest) := by
  cases cs with
  | nil =>
    -- the number ends here, since it does not go on in the other text
    have h' := @whole_append rest negative n dropped [] m r
    cases rest with
    | nil => exact h' h
    | cons c rest => simpa [afterDigits, hr c rfl] using h' h
  | cons c cs =>
    by_cases hp : c = '.'
    · subst hp
      exact map_append (fun x => Number.fraction (Number.signed negative x))
        (fractionPart_append hr) h
    · rw [List.cons_append]
      unfold afterDigits at h ⊢
      simp only at h ⊢
      split at h
      · next hc =>
        rw [if_pos hc]
        exact map_append (fun x => Number.fraction (Number.signed negative x))
          (exponentPart_append hr) h
      · next hc =>
        rw [if_neg hc]
        exact whole_append h

/-- A number after its sign, in front of another text. -/
lemma number_append {negative cs m r} (hr : Stops rest) (h : number negative cs = .ok (m, r)) :
    number negative (cs ++ rest) = .ok (m, r ++ rest) := by
  cases cs with
  | nil => cases h
  | cons c cs =>
    rw [List.cons_append]
    unfold number at h ⊢
    simp only at h ⊢
    split at h
    · next hc =>
      rw [if_pos hc]
      cases cs with
      | nil =>
        cases rest with
        | nil =>
          rw [List.append_nil, List.append_nil]
          exact h
        | cons d rest =>
          simp only [List.nil_append, (hr d rfl).1, Bool.false_eq_true, if_false]
          exact @afterDigits_append (d :: rest) negative 0 0 [] m r hr h
      | cons d cs =>
        simp only [List.cons_append] at h ⊢
        split at h
        · cases h
        · next hd =>
          rw [if_neg hd]
          exact @afterDigits_append rest negative 0 0 (d :: cs) m r hr h
    · next hc =>
      rw [if_neg hc]
      split at h
      · next hd =>
        rw [if_pos hd]
        simp only [moreDigits_append hr]
        exact afterDigits_append hr h
      · cases h

/-- A number without a sign. -/
lemma readNumber_of_ne {c cs} (h : c ≠ '-') : readNumber (c :: cs) = number false (c :: cs) := by
  unfold readNumber
  split
  · next e =>
    cases e
    exact (h rfl).elim
  · rfl

/-- A number that a text is reads the same in front of another text. -/
lemma readNumber_append {cs m r} (hr : Stops rest) (h : readNumber cs = .ok (m, r)) :
    readNumber (cs ++ rest) = .ok (m, r ++ rest) := by
  cases cs with
  | nil => cases h
  | cons c cs =>
    by_cases hc : c = '-'
    · subst hc
      exact number_append hr h
    · rw [readNumber_of_ne hc] at h
      rw [List.cons_append, readNumber_of_ne hc]
      exact @number_append rest false (c :: cs) m r hr h

end Gamebook.Json
