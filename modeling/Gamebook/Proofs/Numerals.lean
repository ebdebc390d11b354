import Gamebook.Number.Read
import Gamebook.Proofs.NumberText
import Gamebook.Proofs.Slices
import Mathlib.Data.List.TakeWhile

/-!
# Numerals

A numeral is what is displayed of a finite number: a decimal without an exponent, or a minus and
such a decimal. In an expression it is one token or two, and stays apart from what stands next to
it. Main definitions: `Numeral`, `Numeral.Writes`. Main statements: `Numeral.exists_writes`,
`Token.exists_numeral`.
-/

namespace Gamebook

namespace Token.Rule.Matches

variable {digits : List Char} {x : Float}

/-- A number starts with a digit. -/
lemma exists_digit (h : number.Matches digits) : ∃ d ds, digits = d :: ds ∧ d.isDigit = true := by
  cases h with
  | whole hdigits =>
    obtain ⟨d, ds, rfl⟩ := List.exists_cons_of_ne_nil hdigits.1
    exact ⟨d, ds, rfl, hdigits.2 d List.mem_cons_self⟩
  | @fraction digits places hdigits _ =>
    obtain ⟨d, ds, rfl⟩ := List.exists_cons_of_ne_nil hdigits.1
    exact ⟨d, ds ++ '.' :: places, rfl, hdigits.2 d List.mem_cons_self⟩

/-- A number is no word. -/
lemma meet_eq_false {other} (h : number.Matches digits) : meet digits other = false := by
  obtain ⟨d, ds, rfl, hd⟩ := h.exists_digit
  rw [meet, isWord, not_isNameStart_of_isDigit hd, Bool.false_and, Bool.false_and]

/-- A number is a slice. -/
lemma exists_slice (h : number.Matches digits) (hx : Number.read? digits = some x) :
    ∃ s : Slice, s.text = digits ∧ s.token = .number x := by
  obtain ⟨d, ds, hds, hd⟩ := h.exists_digit
  have hnumber : number ∈ Rule.all := by simp [Rule.all]
  obtain ⟨rule, hall, more, rest, hnil, hmatch, hlongest⟩ :=
    exists_longest [] hnumber h (by simp [hds])
  obtain ⟨rfl, rfl⟩ := List.append_eq_nil_iff.1 hnil.symm
  rw [List.append_nil] at hmatch hlongest
  suffices rule = number by
    subst this
    have hreads : number.token? digits = some (.number x) := by
      rw [token?, hx]
      rfl
    exact ⟨⟨digits, .number x, number, hlongest, hreads⟩, rfl, rfl⟩
  have hletter := h.d_not_mem
  generalize digits = cs at hmatch hds hletter
  cases hmatch with
  | percent => simp at hletter
  | sides => simp at hletter
  | whole => rfl
  | fraction => rfl
  | fixed =>
    have hhead :=
      of_fixedAll (p := fun text _ => !text.toList.head?.any Char.isDigit) (by decide) hall
    simp [hds, hd] at hhead
  | ident hword =>
    rw [hds, isWord, not_isNameStart_of_isDigit hd] at hword
    cases hword

end Token.Rule.Matches

namespace Number

open Token (IsDigits)

/-- A decimal without an exponent is a number in an expression. -/
lemma matches_positional {d : Decimal} : Token.Rule.number.Matches (d.positional false) := by
  have hdigits : IsDigits d.text :=
    ⟨Nat.toDigits_ne_nil, fun c hc => Nat.isDigit_of_mem_toDigits (by decide) (by decide) hc⟩
  have zeros {n : Nat} {cs : List Char} (h : IsDigits cs) :
      ∀ c ∈ List.replicate n '0' ++ cs, c.isDigit = true := by
    intro c hc
    obtain hc | hc := List.mem_append.1 hc
    · rw [List.eq_of_mem_replicate hc]
      rfl
    · exact h.2 c hc
  rw [Decimal.positional]
  split
  · refine .whole ⟨by simp [hdigits.1], fun c hc => ?_⟩
    simp only [Bool.false_eq_true, if_false, List.append_nil, List.mem_append] at hc
    obtain hc | hc := hc
    · exact hdigits.2 c hc
    · rw [List.eq_of_mem_replicate hc]
      rfl
  · next hexp =>
    simp only
    split
    · next hplaces =>
      refine .fraction ⟨?_, fun c hc => hdigits.2 c (List.mem_of_mem_take hc)⟩
        ⟨?_, fun c hc => hdigits.2 c (List.mem_of_mem_drop hc)⟩
      · rw [ne_eq, List.take_eq_nil_iff, not_or]
        exact ⟨by omega, hdigits.1⟩
      · rw [ne_eq, List.drop_eq_nil_iff]
        omega
    · exact @Token.Rule.Matches.fraction ['0'] _ ⟨by simp, List.forall_mem_singleton.2 rfl⟩
        ⟨by simp [hdigits.1], zeros hdigits⟩

/-- Digits have no case. -/
lemma toLower_of_isDigit {c : Char} (h : c.isDigit = true) : c.toLower = c := by
  have hdigit := Token.toNat_of_isDigit h
  have hupper : ¬(c.val ≥ 65 ∧ c.val ≤ 90) := by
    simp only [ge_iff_le, UInt32.le_iff_toNat_le]
    change ¬(65 ≤ c.toNat ∧ c.toNat ≤ 90)
    omega
  exact dif_neg hupper

/-- A text that starts with a digit has no sign. -/
lemma splitSign_cons {d ds} (hd : d.isDigit = true) : splitSign (d :: ds) = (false, d :: ds) := by
  rw [splitSign]
  · intro cs e
    cases e
    cases hd
  · intro cs e
    cases e
    cases hd

/-- A text that starts with a digit is read as a decimal, behind a minus too. -/
lemma read?_cons {d ds} (hd : d.isDigit = true) :
    read? (d :: ds) = (decimal? (d :: ds)).map Decimal.toFloat ∧
      read? ('-' :: d :: ds) = (decimal? (d :: ds)).map fun decimal => -decimal.toFloat := by
  have hname : ∀ c name, c.isDigit = false → (d :: ds).map Char.toLower ≠ c :: name := by
    rintro c name hc h
    rw [List.map_cons, toLower_of_isDigit hd] at h
    rw [(List.cons.inj h).1, hc] at hd
    cases hd
  have hinfinity : ¬((d :: ds).map Char.toLower = ['i', 'n', 'f'] ∨
      (d :: ds).map Char.toLower = "infinity".toList) :=
    not_or.2 ⟨hname _ _ rfl, hname _ _ rfl⟩
  constructor
  · simp only [read?, splitSign_cons hd]
    rw [if_neg hinfinity, if_neg (hname _ _ rfl)]
    rfl
  · simp only [read?, splitSign]
    rw [if_neg hinfinity, if_neg (hname _ _ rfl)]
    rfl

/-- A number in an expression is read. -/
lemma exists_read {cs : List Char} (h : Token.Rule.number.Matches cs) : ∃ x, read? cs = some x := by
  obtain ⟨d, ds, hds, hd⟩ := h.exists_digit
  have hdecimal : ∃ decimal, decimal? cs = some decimal := by
    cases h with
    | whole hdigits =>
      rw [decimal?, List.takeWhile_eq_self_iff.2 hdigits.2, List.dropWhile_eq_nil_iff.2 hdigits.2]
      simp only [List.append_nil]
      rw [if_neg hdigits.1]
      exact ⟨_, rfl⟩
    | @fraction digits places hdigits hplaces =>
      have hpoint : ¬Char.isDigit '.' = true := by decide
      rw [decimal?, List.takeWhile_append_of_pos hdigits.2, List.dropWhile_append_of_pos hdigits.2,
        List.takeWhile_cons_of_neg hpoint, List.dropWhile_cons_of_neg hpoint]
      simp only [List.takeWhile_eq_self_iff.2 hplaces.2, List.dropWhile_eq_nil_iff.2 hplaces.2]
      rw [if_neg (by simp [hdigits.1])]
      exact ⟨_, rfl⟩
  obtain ⟨decimal, hdecimal⟩ := hdecimal
  have hread := (@read?_cons d ds hd).1
  rw [← hds, hdecimal] at hread
  exact ⟨_, hread⟩

/-- A finite number is taken apart into a sign and two integers. -/
lemma ofFloat_of_isFinite {x : Float} (h : x.isFinite = true) :
    ∃ negative m q, Binary.ofFloat x = .finite negative m q := by
  have h : x.toModel.unpack.isFinite = true := h
  rw [Binary.ofFloat]
  cases e : x.toModel.unpack with
  | infinity s => rw [e] at h; cases h
  | notANumber => rw [e] at h; cases h
  | zero s => exact ⟨_, _, _, rfl⟩
  | finite s m q hm => exact ⟨_, _, _, rfl⟩

end Number

/-- What stands for a variable. -/
inductive Numeral where
  /-- A number. -/
  | number (x : Float)
  /-- A minus and a number. -/
  | negated (x : Float)

namespace Numeral

/-- The tokens of a numeral. -/
def tokens : Numeral → List Token
  | number x => [.number x]
  | negated x => [.op .sub, .number x]

/-- A numeral as an expression. -/
def expr : Numeral → Expr
  | number x => .number x
  | negated x => .unary .neg (.number x)

/-- Whether a text is a numeral: a decimal without an exponent, or a minus and such a decimal. -/
inductive Writes : Numeral → List Char → Prop where
  | number {x digits} :
    Token.Rule.number.Matches digits → Number.read? digits = some x → Writes (.number x) digits
  | negated {x digits} :
    Token.Rule.number.Matches digits → Number.read? digits = some x →
    Writes (.negated x) ('-' :: digits)

/-- A finite number is displayed as a numeral. -/
lemma exists_writes {x : Float} (h : x.isFinite = true) :
    ∃ n : Numeral, n.Writes (Number.display x).toList := by
  obtain ⟨negative, m, q, hx⟩ := Number.ofFloat_of_isFinite h
  rw [Number.display, hx]
  simp only
  split
  · have hzero : Token.Rule.number.Matches ['0'] :=
      .whole ⟨by simp, List.forall_mem_singleton.2 rfl⟩
    obtain ⟨x, hread⟩ := Number.exists_read hzero
    exact ⟨.number x, .number hzero hread⟩
  · have hmatch := @Number.matches_positional (Number.shortest .up m q)
    obtain ⟨x, hread⟩ := Number.exists_read hmatch
    rw [String.toList_ofList]
    cases negative with
    | true => exact ⟨.negated x, .negated hmatch hread⟩
    | false => exact ⟨.number x, .number hmatch hread⟩

end Numeral

namespace Token

/-- A name is a word. -/
lemma Slice.isWord_of_ident {s : Slice} {name} (h : s.token = .ident name) :
    isWord s.text = true := by
  have hmatch := s.matches_text
  have hall := s.mem_all
  have hreads := s.reads
  rw [h] at hreads
  cases hrule : s.rule with
  | dice =>
    rw [hrule] at hreads
    obtain ⟨count, sides, ht, -⟩ := Rule.token?_dice hreads
    cases ht
  | number =>
    rw [hrule] at hreads
    obtain ⟨x, -, hx⟩ := Option.map_eq_some_iff.1 hreads
    cases hx
  | fixed text token =>
    rw [hrule] at hall hreads
    obtain rfl : token = .ident name := Option.some.inj hreads
    have hnone := Rule.of_fixedAll
      (p := fun _ token => !(token.opens && token.closes) || token.isBracket ||
        token == .bool true || token == .bool false) (by decide) hall
    cases hnone
  | ident =>
    rw [hrule] at hmatch
    exact Rule.isWord_of_matches hmatch

/-- What does not go on with a word does not go on with anything. -/
lemma meet_eq_false_of_word {text word other : List Char} (h : meet text word = false)
    (hword : isWord word = true) : meet text other = false := by
  cases word with
  | nil => cases hword
  | cons c cs =>
    rw [isWord, Bool.and_eq_true] at hword
    rw [meet, List.head?_cons, Option.any_some, isNameChar_of_isNameStart hword.1,
      Bool.and_true] at h
    rw [meet, h, Bool.false_and]

/-- The minus. -/
def Slice.minus : Slice where
  text := ['-']
  token := .op .sub
  rule := .fixed "-" (.op .sub)
  longest := rfl
  reads := rfl

variable {p : Placed}

/-- A numeral in place of a name between gaps. -/
lemma exists_numeral {n : Numeral} {text : List Char} (h : n.Writes text) {name}
    (hp : p.slice.token = .ident name) :
    ∃ (q : Placed) (qs : List Placed),
      (q :: qs).flatMap Placed.text = p.before.text ++ (text ++ p.after.text) ∧
      (q :: qs).map (·.slice.token) = n.tokens ∧ (q :: qs).IsChain Placed.Apart ∧
      (∀ p' : Placed, p'.Apart p → p'.Apart q) ∧
      ∀ q' ∈ (q :: qs).getLast?, ∀ p' : Placed, q'.Apart p' := by
  have before (q : Placed) (hq : q.before = p.before) (p' : Placed) (happart : p'.Apart p) :
      p'.Apart q := by
    intro hempty
    rw [hq] at hempty
    exact meet_eq_false_of_word (happart hempty) (p.slice.isWord_of_ident hp)
  cases h with
  | number hmatch hread =>
    obtain ⟨s, rfl, hs⟩ := hmatch.exists_slice hread
    refine ⟨⟨p.before, s, p.after⟩, [], List.append_nil _, congrArg (fun t => [t]) hs, .singleton _,
      before _ rfl, ?_⟩
    rintro q ⟨⟩ p' -
    exact hmatch.meet_eq_false
  | negated hmatch hread =>
    obtain ⟨s, rfl, hs⟩ := hmatch.exists_slice hread
    refine ⟨⟨p.before, .minus, .none⟩, [⟨.none, s, p.after⟩], ?_,
      congrArg (fun t => [Token.op .sub, t]) hs, .cons_cons (fun _ => rfl) (.singleton _),
      before _ rfl, ?_⟩
    · simp [Placed.text, Gap.none, Slice.minus]
    · rintro q ⟨⟩ p' -
      exact hmatch.meet_eq_false

end Token

end Gamebook
