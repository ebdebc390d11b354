import Gamebook.Expr.Token
import Mathlib.Tactic.Lemma

/-!
# Longest matches

Each rule for tokens matches the texts of a small language, and its reach is the length of its
longest match. So a token depends on the text after it only as far as some rule matches more than
the token, and `Joins` says which characters can be taken in by what is read before them. Main
definitions: `Token.Rule.Matches`, `Token.Joins`. Main statements: `Token.Rule.Matches.le_reach`,
`Token.Rule.exists_match`, `Token.Rule.Matches.joins`, `Token.longest?_sealed`.
-/

namespace Gamebook.Token

/-- Whether a text consists of digits, at least one. -/
def IsDigits (cs : List Char) : Prop :=
  cs ≠ [] ∧ ∀ c ∈ cs, c.isDigit = true

/-- Whether a text is a letter or underscore with letters, digits and underscores after it. -/
def isWord : List Char → Bool
  | [] => false
  | c :: cs => isNameStart c && cs.all isNameChar

/-- The texts that a rule matches. -/
inductive Rule.Matches : Rule → List Char → Prop where
  | percent {count : List Char} :
    (∀ c ∈ count, c.isDigit = true) → Matches dice (count ++ ['d', '%'])
  | sides {count sides : List Char} :
    (∀ c ∈ count, c.isDigit = true) → IsDigits sides → Matches dice (count ++ 'd' :: sides)
  | whole {digits} : IsDigits digits → Matches number digits
  | fraction {digits places} :
    IsDigits digits → IsDigits places → Matches number (digits ++ '.' :: places)
  | fixed {text token} : Matches (fixed text token) text.toList
  | ident {cs} : isWord cs = true → Matches ident cs

lemma isNameChar_of_isDigit {c} (h : c.isDigit = true) : isNameChar c = true := by
  simp [isNameChar, Char.isAlphanum, h]

lemma isNameChar_of_isNameStart {c} (h : isNameStart c = true) : isNameChar c = true := by
  simp only [isNameStart, isNameChar, Char.isAlphanum, Bool.or_eq_true] at h ⊢
  exact h.imp_left .inl

/-- A character inside of a name may start one, or is a digit. -/
lemma isNameChar_cases {c} (h : isNameChar c = true) : isNameStart c = true ∨ c.isDigit = true := by
  simp only [isNameStart, isNameChar, Char.isAlphanum, Bool.or_eq_true] at h ⊢
  obtain (h | h) | h := h
  · exact .inl (.inl h)
  · exact .inr h
  · exact .inl (.inr h)

lemma toNat_of_isDigit {c : Char} (h : c.isDigit = true) : 48 ≤ c.toNat ∧ c.toNat ≤ 57 := by
  have h : (decide (c.val ≥ '0'.val) && decide (c.val ≤ '9'.val)) = true := h
  simpa [UInt32.le_iff_toNat_le] using h

lemma toNat_of_isNameStart {c} (h : isNameStart c = true) :
    65 ≤ c.toNat ∧ c.toNat ≤ 90 ∨ 97 ≤ c.toNat ∧ c.toNat ≤ 122 ∨ c.toNat = 95 := by
  have h : (decide (c.val ≥ 'A'.val ∧ c.val ≤ 'Z'.val) ||
    decide (c.val ≥ 'a'.val) && decide (c.val ≤ 'z'.val) || c == '_') = true := h
  simp only [Bool.or_eq_true, Bool.and_eq_true, decide_eq_true_eq, beq_iff_eq, ge_iff_le,
    UInt32.le_iff_toNat_le] at h
  obtain (h | h) | rfl := h
  · exact .inl h
  · exact .inr (.inl h)
  · exact .inr (.inr rfl)

/-- A digit is not the start of a name. -/
lemma not_isNameStart_of_isDigit {c} (h : c.isDigit = true) : isNameStart c = false := by
  refine Bool.eq_false_iff.2 fun hstart => ?_
  have hdigit := toNat_of_isDigit h
  have hletter := toNat_of_isNameStart hstart
  omega

section Digits

variable {ds cs : List Char} {c : Char}

lemma digitCount_append (h : ∀ c ∈ ds, c.isDigit = true) :
    digitCount (ds ++ cs) = ds.length + digitCount cs := by
  rw [digitCount, List.takeWhile_append_of_pos h, List.length_append, digitCount]

lemma digitCount_cons_of_not (h : c.isDigit = false) : digitCount (c :: cs) = 0 := by
  rw [digitCount, List.takeWhile_cons_of_neg (ne_true_of_eq_false h), List.length_nil]

lemma le_digitCount (h : ∀ c ∈ ds, c.isDigit = true) : ds.length ≤ digitCount (ds ++ cs) := by
  rw [digitCount_append h]
  exact Nat.le_add_right _ _

/-- A text is the digits at its start and a text that does not start with one. -/
lemma exists_digits (cs : List Char) :
    ∃ ds rest, cs = ds ++ rest ∧ (∀ c ∈ ds, c.isDigit = true) ∧ digitCount rest = 0 := by
  refine ⟨_, _, List.takeWhile_append_dropWhile.symm, List.all_eq_true.1 List.all_takeWhile, ?_⟩
  have hcount := @digitCount_append _ (cs.dropWhile Char.isDigit)
    (List.all_eq_true.1 (List.all_takeWhile (p := Char.isDigit) (l := cs)))
  rw [List.takeWhile_append_dropWhile] at hcount
  exact Nat.left_eq_add.1 hcount

end Digits

namespace Rule

variable {rule : Rule} {slice ds rest cs : List Char}

/-- A rule reaches at least as far as each of its matches. -/
lemma Matches.le_reach (h : rule.Matches slice) : slice.length ≤ rule.reach (slice ++ rest) := by
  -- the digits of a match are counted up to the character that ends them, or on into the text behind
  -- the match, which can only add to the count
  have hd : Char.isDigit 'd' = false := rfl
  have hpoint : Char.isDigit '.' = false := rfl
  cases h with
  | @percent count hcount =>
    rw [List.append_assoc, reach, digitCount_append hcount, List.cons_append,
      digitCount_cons_of_not hd, Nat.add_zero, List.drop_left, List.length_append]
    exact Nat.le_refl _
  | @sides count sides hcount hsides =>
    have hlength := @le_digitCount _ rest hsides.2
    have hpos : 0 < sides.length := List.length_pos_iff.2 hsides.1
    rw [List.append_assoc, reach, digitCount_append hcount, List.cons_append,
      digitCount_cons_of_not hd, Nat.add_zero, List.drop_left, List.length_append, List.length_cons]
    split
    · next heq =>
      rw [(List.cons.inj heq).2, digitCount_cons_of_not rfl] at hlength
      omega
    · next _ heq =>
      cases heq
      rw [if_neg (by omega)]
      omega
    · next h => exact (h _ rfl).elim
  | @whole digits hdigits =>
    have hlength := @le_digitCount _ rest hdigits.2
    have hpos : 0 < slice.length := List.length_pos_iff.2 hdigits.1
    rw [reach, if_neg (by omega)]
    split
    · split
      · exact hlength
      · omega
    · exact hlength
  | @fraction digits places hdigits hplaces =>
    have hlength := @le_digitCount _ rest hplaces.2
    have hpos : 0 < places.length := List.length_pos_iff.2 hplaces.1
    have hdpos : 0 < digits.length := List.length_pos_iff.2 hdigits.1
    rw [List.append_assoc, reach, digitCount_append hdigits.2, List.cons_append,
      digitCount_cons_of_not hpoint, Nat.add_zero, List.drop_left, List.length_append,
      List.length_cons, if_neg (by omega)]
    simp only
    rw [if_neg (by omega)]
    omega
  | fixed =>
    rw [reach, Text.dropPrefix?_eq_some_iff.2 rfl]
    exact Nat.le_refl _
  | ident h =>
    cases slice with
    | nil => exact Nat.zero_le _
    | cons c cs =>
      rw [isWord, Bool.and_eq_true] at h
      rw [List.cons_append, reach, if_pos h.1,
        List.takeWhile_append_of_pos (List.all_eq_true.1 h.2)]
      simp only [List.length_cons, List.length_append]
      omega

/-- What a rule reaches is one of its matches. -/
lemma exists_match (h : 0 < rule.reach cs) :
    ∃ slice rest, cs = slice ++ rest ∧ rule.Matches slice ∧ slice.length = rule.reach cs := by
  -- the text is taken apart where the rule stops to count
  cases rule with
  | dice =>
    obtain ⟨ds, rest, rfl, hds, hrest⟩ := exists_digits cs
    rw [reach, digitCount_append hds, hrest, Nat.add_zero, List.drop_left] at h ⊢
    split at h
    · next rest => exact ⟨ds ++ ['d', '%'], rest, by simp, .percent hds, by simp⟩
    · next after _ =>
      obtain ⟨sides, rest, rfl, hsides, hnone⟩ := exists_digits after
      rw [digitCount_append hsides, hnone, Nat.add_zero] at h ⊢
      split at h
      · exact (Nat.lt_irrefl _ h).elim
      · next hsome =>
        have hdigits : IsDigits sides := ⟨mt List.length_eq_zero_iff.2 hsome, hsides⟩
        refine ⟨ds ++ 'd' :: sides, rest, by simp, .sides hds hdigits, ?_⟩
        rw [if_neg hsome, List.length_append, List.length_cons]
        omega
    · exact (Nat.lt_irrefl _ h).elim
  | number =>
    obtain ⟨ds, rest, rfl, hds, hrest⟩ := exists_digits cs
    rw [reach, digitCount_append hds, hrest, Nat.add_zero, List.drop_left] at h ⊢
    split at h
    · exact (Nat.lt_irrefl _ h).elim
    next hsome =>
    have hdigits : IsDigits ds := ⟨mt List.length_eq_zero_iff.2 hsome, hds⟩
    rw [if_neg hsome]
    split
    · next after =>
      obtain ⟨places, rest, rfl, hplaces, hnone⟩ := exists_digits after
      rw [digitCount_append hplaces, hnone, Nat.add_zero]
      split
      · exact ⟨ds, _, rfl, .whole hdigits, rfl⟩
      · next hpoint =>
        have hdecimals : IsDigits places := ⟨mt List.length_eq_zero_iff.2 hpoint, hplaces⟩
        refine ⟨ds ++ '.' :: places, rest, by simp, .fraction hdigits hdecimals, ?_⟩
        rw [List.length_append, List.length_cons]
        omega
    · exact ⟨ds, _, rfl, .whole hdigits, rfl⟩
  | fixed text token =>
    rw [reach] at h ⊢
    split at h
    · next found =>
      obtain ⟨rest, hrest⟩ := Option.isSome_iff_exists.1 found
      rw [if_pos found]
      exact ⟨_, rest, Text.dropPrefix?_eq_some_iff.1 hrest, .fixed, rfl⟩
    · exact (Nat.lt_irrefl _ h).elim
  | ident =>
    cases cs with
    | nil => exact (Nat.lt_irrefl _ h).elim
    | cons c cs =>
      rw [reach] at h ⊢
      split at h
      · next hc =>
        rw [if_pos hc]
        refine ⟨c :: cs.takeWhile isNameChar, cs.dropWhile isNameChar, ?_, .ident ?_, ?_⟩
        · rw [List.cons_append, List.takeWhile_append_dropWhile]
        · rw [isWord, hc, List.all_takeWhile]
          rfl
        · rw [List.length_cons, Nat.add_comm]
      · exact (Nat.lt_irrefl _ h).elim

/-- A property of the fixed texts and their tokens, checked for each rule. -/
def fixedAll (p : String → Token → Bool) : Bool :=
  all.all fun
    | fixed text token => p text token
    | _ => true

lemma of_fixedAll {p : String → Token → Bool} {text token} (hp : fixedAll p = true)
    (h : fixed text token ∈ all) : p text token = true :=
  List.all_eq_true.1 hp _ h

end Rule

/--
Whether a character can be taken in by what is read before it: it goes on a word, a number or dice,
ends dice, or makes a sign of two characters.
-/
inductive Joins : List Char → Char → Prop where
  | word {slice c} : isWord slice = true → isNameChar c = true → Joins slice c
  | digits {d slice c} :
    d.isDigit = true → c.isDigit = true ∨ c = '.' ∨ c = 'd' → Joins (d :: slice) c
  | percent {count : List Char} : (∀ c ∈ count, c.isDigit = true) → Joins (count ++ ['d']) '%'
  | sign {d c} : d ∈ ['<', '>', '=', '!', '&', '|'] → c ∈ ['=', '&', '|'] → Joins [d] c

/-- The start of a word and the character after it. -/
lemma joins_of_isWord {slice c rest} (hne : slice ≠ []) (h : isWord (slice ++ c :: rest) = true) :
    Joins slice c := by
  obtain ⟨d, ds, rfl⟩ := List.exists_cons_of_ne_nil hne
  rw [List.cons_append, isWord, Bool.and_eq_true, List.all_append, Bool.and_eq_true, List.all_cons,
    Bool.and_eq_true] at h
  obtain ⟨hd, hds, hc, -⟩ := h
  exact .word (by rw [isWord, hd, hds]; rfl) hc

/-- Whether a text is a character, or a sign of two characters. -/
def isSign : List Char → Bool
  | [_] => true
  | [d, c] => d ∈ ['<', '>', '=', '!', '&', '|'] && c ∈ ['=', '&', '|']
  | _ => false

/-- The start of a sign and the character after it. -/
lemma joins_of_isSign {slice c rest} (hne : slice ≠ []) (h : isSign (slice ++ c :: rest) = true) :
    Joins slice c := by
  match slice, rest with
  | [], _ => exact (hne rfl).elim
  | [d], [] =>
    rw [List.cons_append, List.nil_append, isSign, Bool.and_eq_true] at h
    exact .sign (of_decide_eq_true h.1) (of_decide_eq_true h.2)
  | [_], _ :: _ => cases h
  | [_, _], _ => cases h
  | _ :: _ :: _ :: _, _ => cases h

/-- The start of dice and the character after it. -/
lemma joins_of_dice {count sides slice rest : List Char} {c : Char}
    (hcount : ∀ c ∈ count, c.isDigit = true)
    (hsides : sides = ['%'] ∨ ∀ c ∈ sides, c.isDigit = true) (hne : slice ≠ [])
    (h : slice ++ c :: rest = count ++ 'd' :: sides) : Joins slice c := by
  obtain ⟨more, rfl, hmore⟩ | ⟨more, rfl, hmore⟩ := List.append_eq_append_iff.1 h
  · -- the text ends among the digits of the count
    obtain ⟨d, ds, rfl⟩ := List.exists_cons_of_ne_nil hne
    have hd := hcount d List.mem_cons_self
    cases more with
    | nil =>
      cases hmore
      exact .digits hd (.inr (.inr rfl))
    | cons x more =>
      cases hmore
      exact .digits hd (.inl (hcount c (by simp)))
  cases more with
  | nil =>
    cases hmore
    rw [List.append_nil] at hne ⊢
    obtain ⟨d, ds, rfl⟩ := List.exists_cons_of_ne_nil hne
    exact .digits (hcount d List.mem_cons_self) (.inr (.inr rfl))
  | cons x more =>
    rw [List.cons_append, List.cons.injEq] at hmore
    obtain ⟨rfl, htail⟩ := hmore
    cases hsides with
    | inl hpercent =>
      rw [hpercent, eq_comm, List.append_eq_singleton_iff] at htail
      obtain ⟨rfl, hlast⟩ | ⟨-, hlast⟩ := htail
      · cases hlast
        exact .percent hcount
      · cases hlast
    | inr hdigits =>
      rw [htail] at hdigits
      have hc : c.isDigit = true := hdigits c (by simp)
      cases count with
      | nil =>
        refine .word ?_ (isNameChar_of_isDigit hc)
        rw [List.nil_append, isWord, Bool.and_eq_true, List.all_eq_true]
        exact ⟨rfl, fun x hx => isNameChar_of_isDigit (hdigits x (by simp [hx]))⟩
      | cons d count => exact .digits (hcount d List.mem_cons_self) (.inl hc)

/-- Where a rule matches more than a text, the next character can be taken in. -/
lemma Rule.Matches.joins {rule : Rule} {slice c rest} (hr : rule ∈ Rule.all)
    (h : rule.Matches (slice ++ c :: rest)) (hne : slice ≠ []) : Joins slice c := by
  -- how the match is made up of the slice and the rest depends on the rule
  generalize e : slice ++ c :: rest = whole at h
  cases h with
  | percent hcount => exact joins_of_dice hcount (.inl rfl) hne e
  | sides hcount hsides => exact joins_of_dice hcount (.inr hsides.2) hne e
  | whole hdigits =>
    have hall := hdigits.2
    obtain ⟨d, ds, rfl⟩ := List.exists_cons_of_ne_nil hne
    rw [← e] at hall
    exact .digits (hall d (by simp)) (.inl (hall c (by simp)))
  | @fraction digits places hdigits hplaces =>
    obtain ⟨d, ds, rfl⟩ := List.exists_cons_of_ne_nil hne
    obtain ⟨x, xs, rfl⟩ := List.exists_cons_of_ne_nil hdigits.1
    rw [List.cons_append, List.cons_append, List.cons.injEq] at e
    obtain ⟨rfl, htail⟩ := e
    refine .digits (hdigits.2 d List.mem_cons_self) ?_
    have hc : c ∈ xs ++ '.' :: places := by
      rw [← htail]
      simp
    rw [List.mem_append, List.mem_cons] at hc
    obtain hc | rfl | hc := hc
    · exact .inl (hdigits.2 c (List.mem_cons_of_mem _ hc))
    · exact .inr (.inl rfl)
    · exact .inl (hplaces.2 c hc)
  | @fixed text token =>
    have hshape := of_fixedAll (p := fun text _ => isWord text.toList || isSign text.toList)
      (by decide) hr
    rw [← e, Bool.or_eq_true] at hshape
    obtain hword | hsign := hshape
    · exact joins_of_isWord hne hword
    · exact joins_of_isSign hne hsign
  | ident h =>
    rw [← e] at h
    exact joins_of_isWord hne h

section Longest

variable {rules : List Rule} {rule : Rule} {slice rest rest' cs : List Char} {n : Nat}

/-- Where there is no longest match, no rule matches. -/
lemma longest?_none (h : longest? cs rules = none) : ∀ rule ∈ rules, rule.reach cs = 0 := by
  induction rules with
  | nil => exact List.forall_mem_nil _
  | cons first rules ih =>
    rw [longest?] at h
    cases e : longest? cs rules with
    | some found =>
      rw [e] at h
      simp only at h
      split at h <;> cases h
    | none =>
      rw [e] at h
      simp only at h
      split at h
      · cases h
      · next hpos => exact List.forall_mem_cons.2 ⟨Nat.eq_zero_of_not_pos hpos, ih e⟩

/-- The longest match is that of a rule, and no rule reaches further. -/
lemma longest?_some (h : longest? cs rules = some (rule, n)) :
    rule ∈ rules ∧ n = rule.reach cs ∧ 0 < n ∧ ∀ other ∈ rules, other.reach cs ≤ n := by
  induction rules generalizing rule n with
  | nil => cases h
  | cons first rules ih =>
    rw [longest?] at h
    cases e : longest? cs rules with
    | none =>
      rw [e] at h
      simp only at h
      split at h
      · next hpos =>
        cases h
        refine ⟨List.mem_cons_self, rfl, hpos, List.forall_mem_cons.2 ⟨Nat.le_refl _, ?_⟩⟩
        exact fun other ho => Nat.le_trans (Nat.le_of_eq (longest?_none e other ho)) (Nat.zero_le _)
      · cases h
    | some found =>
      obtain ⟨other, m⟩ := found
      obtain ⟨hmem, hreach, hpos, hmost⟩ := ih e
      rw [e] at h
      simp only at h
      split at h
      · next hle =>
        cases h
        exact ⟨List.mem_cons_self, rfl, Nat.lt_of_lt_of_le hpos hle,
          List.forall_mem_cons.2 ⟨Nat.le_refl _, fun other ho => Nat.le_trans (hmost other ho) hle⟩⟩
      · next hlt =>
        cases h
        exact ⟨List.mem_cons_of_mem _ hmem, hreach, hpos,
          List.forall_mem_cons.2 ⟨Nat.le_of_not_le hlt, hmost⟩⟩

/-- The longest match is one of the rule that is found, at the start of the text. -/
lemma exists_slice_of_longest? (h : longest? cs rules = some (rule, n)) :
    ∃ slice rest, cs = slice ++ rest ∧ rule.Matches slice ∧ slice.length = n := by
  obtain ⟨-, rfl, hpos, -⟩ := longest?_some h
  exact Rule.exists_match hpos

/-- Where a rule matches, a rule has the longest match, which goes on with what is matched. -/
lemma exists_longest (rest : List Char) (hr : rule ∈ rules) (h : rule.Matches slice)
    (hne : slice ≠ []) :
    ∃ other ∈ rules, ∃ more rest', rest = more ++ rest' ∧ other.Matches (slice ++ more) ∧
      longest? (slice ++ rest) rules = some (other, (slice ++ more).length) := by
  have hreach := @Rule.Matches.le_reach _ _ rest h
  cases e : longest? (slice ++ rest) rules with
  | none =>
    rw [longest?_none e rule hr, Nat.le_zero, List.length_eq_zero_iff] at hreach
    exact (hne hreach).elim
  | some found =>
    obtain ⟨other, n⟩ := found
    obtain ⟨hmem, rfl, hpos, hmost⟩ := longest?_some e
    obtain ⟨found, rest', happ, hmatch, hlength⟩ := Rule.exists_match hpos
    obtain ⟨more, rfl⟩ : slice <+: found :=
      List.prefix_of_prefix_length_le (List.prefix_append _ _) ⟨rest', happ.symm⟩
        (hlength.symm ▸ Nat.le_trans hreach (hmost rule hr))
    rw [List.append_assoc, List.append_cancel_left_eq] at happ
    exact ⟨other, hmem, more, rest', happ, hmatch, by rw [hlength]⟩

lemma longest?_congr {cs'} (h : ∀ rule ∈ rules, rule.reach cs = rule.reach cs') :
    longest? cs rules = longest? cs' rules := by
  induction rules with
  | nil => rfl
  | cons first rules ih =>
    rw [longest?, longest?, ih fun rule hr => h rule (List.mem_cons_of_mem _ hr),
      h first List.mem_cons_self]

/-- A rule reaches as far in a text as in any other with the same start, if it stops there. -/
lemma Rule.reach_le_of_le (h : rule.reach (slice ++ rest) ≤ slice.length) :
    rule.reach (slice ++ rest) ≤ rule.reach (slice ++ rest') := by
  obtain hzero | hpos := Nat.eq_zero_or_pos (rule.reach (slice ++ rest))
  · rw [hzero]
    exact Nat.zero_le _
  obtain ⟨found, after, happ, hmatch, hlength⟩ := exists_match hpos
  rw [← hlength] at h
  obtain ⟨more, rfl⟩ : found <+: slice :=
    List.prefix_of_prefix_length_le ⟨after, happ.symm⟩ (List.prefix_append _ _) h
  rw [← hlength, List.append_assoc]
  exact hmatch.le_reach

/-- No rule matches more than a text if the next character, if any, cannot be taken in. -/
lemma Rule.reach_le_of_not_joins (hr : rule ∈ Rule.all) (hne : slice ≠ [])
    (h : ∀ c ∈ rest.head?, ¬Joins slice c) : rule.reach (slice ++ rest) ≤ slice.length := by
  refine Nat.le_of_not_lt fun hlt => ?_
  obtain ⟨found, after, happ, hmatch, hlength⟩ := exists_match (Nat.zero_lt_of_lt hlt)
  rw [← hlength] at hlt
  obtain ⟨more, rfl⟩ : slice <+: found :=
    List.prefix_of_prefix_length_le (List.prefix_append _ _) ⟨after, happ.symm⟩
      (Nat.le_of_lt hlt)
  rw [List.append_assoc, List.append_cancel_left_eq] at happ
  cases more with
  | nil => simp at hlt
  | cons c more =>
    refine h c ?_ (hmatch.joins hr hne)
    rw [happ]
    rfl

/--
The longest match stays the same when the text after it is exchanged for one that no rule takes a
character in from.
-/
lemma longest?_sealed (h : longest? (slice ++ rest) Rule.all = some (rule, slice.length))
    (hrest : ∀ c ∈ rest'.head?, ¬Joins slice c) :
    longest? (slice ++ rest') Rule.all = some (rule, slice.length) := by
  obtain ⟨-, -, hpos, hmost⟩ := longest?_some h
  rw [← h]
  refine longest?_congr fun other ho => Nat.le_antisymm ?_ ?_
  · exact Rule.reach_le_of_le
      (Rule.reach_le_of_not_joins ho (List.length_pos_iff.1 hpos) hrest)
  · exact Rule.reach_le_of_le (hmost other ho)

end Longest

end Gamebook.Token
