import Gamebook.Proofs.JsonText
import Gamebook.Proofs.PlainText
import Gamebook.Proofs.StateText

/-!
# States in relaxed documents

A state that is written with one key a line is read by the relaxed reader as what is written if its
keys and leaves are, and so a plain state is read as the same state. Main definition:
`Json.Relaxed.Legible`. Main statements: `State.readRelaxed_of_legible`,
`State.readRelaxed_prettyChars`.
-/

namespace Gamebook

namespace Number

/-- The digits of a number spell the number. -/
lemma digitsValue_natText {n} : digitsValue (natText n) = n := by
  have h := @Nat.ofDigitChars_ten_toDigits n
  rw [Nat.ofDigitChars_eq_foldl, show '0'.toNat = 48 from rfl] at h
  simpa only [digitsValue, natText, digitValue, Nat.mul_comm] using h

/-- The text of a number has nothing but digits. -/
lemma isDigit_of_mem_natText {n c} (h : c ∈ natText n) : c.isDigit = true :=
  Nat.isDigit_of_mem_toDigits (by decide) (by decide) h

/-- The text of a number starts with a digit, and with a zero only if nothing follows it. -/
lemma natText_cons {n} : ∃ c cs, natText n = c :: cs ∧ c.isDigit = true ∧ (c = '0' → cs = []) := by
  have nonzero : ∀ n, 0 < n → ∃ c cs, natText n = c :: cs ∧ c ≠ '0' := by
    intro n
    induction n using Nat.strongRecOn with
    | ind n ih =>
      intro hn
      by_cases h : n < 10
      · refine ⟨n.digitChar, [], Nat.toDigits_of_lt_base h, ?_⟩
        exact (by decide : ∀ n < 10, 0 < n → n.digitChar ≠ '0') n h hn
      · obtain ⟨c, cs, e, hc⟩ := ih (n / 10) (by omega) (by omega)
        refine ⟨c, cs ++ [(n % 10).digitChar], ?_, hc⟩
        rw [natText, Nat.toDigits_of_base_le (by decide) (by omega)]
        exact congrArg (· ++ _) e
  rcases Nat.eq_zero_or_pos n with rfl | hn
  · exact ⟨'0', [], rfl, rfl, fun _ => rfl⟩
  · obtain ⟨c, cs, e, hc⟩ := nonzero n hn
    refine ⟨c, cs, e, isDigit_of_mem_natText (n := n) ?_, fun h => (hc h).elim⟩
    rw [e]
    exact List.mem_cons_self

end Number

/-- A plain leaf is a text, or has the value of the small integer that it is written as. -/
lemma Scalar.isPlain_cases {leaf : Scalar} (h : leaf.isPlain = true) :
    (∃ s, leaf = .text s ∧ Text.isUnseparated s.toList = true) ∨
      ∃ n, n.natAbs < 9000000000000000 ∧ leaf = .number (Json.Number.int n).toFloat ∧
        leaf.toJson = .num (.int n) := by
  cases leaf with
  | text s => exact .inl ⟨s, rfl, h⟩
  | number x =>
    rw [isPlain] at h
    rw [toJson]
    cases e : Number.smallInteger? x with
    | none =>
      rw [e] at h
      cases h
    | some n =>
      simp only [e, Bool.and_eq_true, decide_eq_true_eq] at h
      exact .inr ⟨n, h.1, by rw [h.2], rfl⟩

namespace Json.Relaxed

/-- White space is skipped. -/
lemma skipFillerFrom_cons {fuel c cs} (h : isFiller c = true) :
    skipFillerFrom (fuel + 1) (c :: cs) = skipFillerFrom fuel cs := by
  conv_lhs => unfold skipFillerFrom
  simp only [h, if_true]

/-- White space before a character that is none is skipped. -/
lemma skipFillerFrom_append (blanks : List Char) {fuel c cs} (hb : ∀ d ∈ blanks, isFiller d = true)
    (hc : isFiller c = false) (hs : c ≠ '/') (h : blanks.length < fuel) :
    skipFillerFrom fuel (blanks ++ c :: cs) = c :: cs := by
  induction blanks generalizing fuel with
  | nil =>
    obtain ⟨fuel, rfl⟩ := Nat.exists_eq_succ_of_ne_zero (Nat.ne_zero_of_lt h)
    simp only [List.nil_append, Nat.succ_eq_add_one]
    unfold skipFillerFrom
    simp [hc, hs]
  | cons d blanks ih =>
    obtain ⟨fuel, rfl⟩ := Nat.exists_eq_succ_of_ne_zero (Nat.ne_zero_of_lt h)
    rw [List.cons_append, Nat.succ_eq_add_one, skipFillerFrom_cons (hb d List.mem_cons_self)]
    exact ih (fun e he => hb e (List.mem_cons_of_mem _ he)) (Nat.lt_of_succ_lt_succ h)

/-- No white space is skipped before a character that is none. -/
lemma skipFiller_cons {c cs} (hc : isFiller c = false) (hs : c ≠ '/') :
    skipFiller (c :: cs) = c :: cs :=
  skipFillerFrom_append [] (List.forall_mem_nil _) hc hs (by simp)

/-- A new line and its indentation are skipped. -/
lemma skipFiller_newLine {level c cs} (hc : isFiller c = false) (hs : c ≠ '/') :
    skipFiller (newLine level ++ c :: cs) = c :: cs := by
  refine skipFillerFrom_append (newLine level) ?_ hc hs (by simp)
  intro d hd
  obtain rfl | hd := List.mem_cons.1 hd
  · rfl
  · rw [List.eq_of_mem_replicate hd]
    rfl

/-- What stands for a character in a string is one part, whose value is the character. -/
lemma escapeSequence?_shortEscape {d c rest} (h : (d, c) ∈ shortEscapes) :
    escapeSequence? (d :: rest) = some (some (.escaped d), rest) ∧ escapedChar d = c := by
  simp only [shortEscapes, List.mem_cons, Prod.mk.injEq, List.not_mem_nil, or_false] at h
  rcases h with ⟨rfl, rfl⟩ | ⟨rfl, rfl⟩ | ⟨rfl, rfl⟩ | ⟨rfl, rfl⟩ | ⟨rfl, rfl⟩ | ⟨rfl, rfl⟩ |
    ⟨rfl, rfl⟩ <;> exact ⟨rfl, rfl⟩

/-- The four digits of a control character are one part, whose value is the character. -/
lemma escapeSequence?_control {c : Char} {rest} (h : c.toNat < 32) :
    ∃ digits, hexValue? digits = some c.toNat ∧
      escapeSequence?
        ('u' :: '0' :: '0' :: lowerHexDigit (c.toNat / 16) :: lowerHexDigit (c.toNat % 16) ::
          rest) = some (some (.unit digits), rest) := by
  refine ⟨_, hexValue?_control h, ?_⟩
  simp [escapeSequence?, takeHex?, hexValue?_control h]

/-- A written text is read up to its closing quote, as parts with the value of the text. -/
lemma stringParts?_escaped {cs fuel rest} (hcs : Text.isUnseparated cs = true)
    (h : cs.length < fuel) :
    ∃ parts, stringParts? '\x22' fuel (cs.flatMap escapeChar ++ '\x22' :: rest) =
      some (parts, rest) ∧
      stringChars none parts = .ok cs := by
  induction cs generalizing fuel with
  | nil =>
    obtain ⟨fuel, rfl⟩ := Nat.exists_eq_succ_of_ne_zero (Nat.ne_zero_of_lt h)
    exact ⟨[], rfl, rfl⟩
  | cons c cs ih =>
    obtain ⟨fuel, rfl⟩ := Nat.exists_eq_succ_of_ne_zero (Nat.ne_zero_of_lt h)
    simp only [Text.isUnseparated, List.all_cons, Bool.and_eq_true, bne_iff_ne, ne_eq] at hcs
    obtain ⟨parts, hp, hv⟩ := @ih fuel hcs.2 (Nat.lt_of_succ_lt_succ h)
    rw [List.flatMap_cons, List.append_assoc]
    -- the three ways of writing a character are the three kinds of parts that are read
    obtain ⟨e, hq, hb, hc⟩ | ⟨d, e, hd⟩ | ⟨hc, e⟩ := escapeChar_forms (c := c)
    · have hline : isLineEnd c = false := by
        have hn : c ≠ '\n' := by
          rintro rfl
          exact hc (by decide)
        have hr : c ≠ '\r' := by
          rintro rfl
          exact hc (by decide)
        simp [isLineEnd, hn, hr, hcs.1]
      refine ⟨.literal c :: parts, ?_, ?_⟩
      · simp [e, stringParts?, hq, hb, hline, hp]
      · simp [stringChars, hv, Except.map]
    · obtain ⟨hesc, hval⟩ := @escapeSequence?_shortEscape d c
        (cs.flatMap escapeChar ++ '\x22' :: rest) hd
      refine ⟨.escaped d :: parts, ?_, ?_⟩
      · simp [e, stringParts?, hesc, hp]
      · simp [stringChars, hv, hval, Except.map]
    · obtain ⟨digits, hval, hesc⟩ :=
        @escapeSequence?_control c (cs.flatMap escapeChar ++ '\x22' :: rest) hc
      refine ⟨.unit digits :: parts, ?_, ?_⟩
      · simp [e, stringParts?, hesc, hp]
      · obtain ⟨ht, hl⟩ := not_isSurrogate_control hc
        simp [stringChars, hval, ht, hl, hv, Except.map]

/-- A quoted text is read up to its end, as parts with the value of the text. -/
lemma stringParts?_quoted {s : String} {rest} (hs : Text.isUnseparated s.toList = true) :
    ∃ parts, quoted s ++ rest = '\x22' :: (s.toList.flatMap escapeChar ++ '\x22' :: rest) ∧
      stringParts? '\x22' ((s.toList.flatMap escapeChar ++ '\x22' :: rest).length + 1)
        (s.toList.flatMap escapeChar ++ '\x22' :: rest) = some (parts, rest) ∧
          stringChars none parts = .ok s.toList := by
  have hlen := @length_le_escaped s.toList
  obtain ⟨parts, hp, hv⟩ := @stringParts?_escaped s.toList
    ((s.toList.flatMap escapeChar ++ '\x22' :: rest).length + 1) rest hs
    (by rw [List.length_append]; omega)
  exact ⟨parts, by simp [quoted], hp, hv⟩

/-- A quoted name is read as a name. -/
lemma key?_quoted {s : String} {rest} (hs : Text.isUnseparated s.toList = true) :
    ∃ parts, key? (quoted s ++ rest) = some (parts, rest) ∧
      ∀ value, fieldOf parts value = (s, value) := by
  obtain ⟨parts, e, hp, hv⟩ := @stringParts?_quoted s rest hs
  refine ⟨parts, ?_, fun value => ?_⟩
  · rw [e, key?, if_pos (.inl rfl), hp]
  · simp only [fieldOf, hv, String.ofList_toList]

/-- A quoted text is read as a text. -/
lemma leaf?_quoted {s : String} {rest} (hs : Text.isUnseparated s.toList = true) :
    leaf? (quoted s ++ rest) = some (.str s, rest) := by
  obtain ⟨parts, e, hp, hv⟩ := @stringParts?_quoted s rest hs
  rw [e]
  simp only [leaf?, hp, Option.map_some, stringValue, hv, String.ofList_toList]
  rfl

/-- Whether a text starts with what may come after a field. -/
def Ends (rest : List Char) : Prop :=
  ∃ cs, rest = ',' :: cs ∨ rest = '\n' :: cs

/-- The digits of a number are skipped up to what comes after a field. -/
lemma skipDecimal?_natText {n rest} (hr : Ends rest) :
    skipDecimal? (Number.natText n ++ rest) = some rest := by
  obtain ⟨c, cs, e, hc, hzero⟩ := @Number.natText_cons n
  have hdigits : ∀ d ∈ cs, d.isDigit = true := by
    intro d hd
    refine Number.isDigit_of_mem_natText (n := n) ?_
    rw [e]
    exact List.mem_cons_of_mem _ hd
  have hwhole : skipWhole? (Number.natText n ++ rest) = some rest := by
    rw [e, List.cons_append, skipWhole?]
    by_cases h : c = '0'
    · rw [if_pos h, hzero h, List.nil_append]
    · rw [if_neg h, if_pos hc, List.dropWhile_append_of_pos hdigits]
      obtain ⟨cs, rfl | rfl⟩ := hr <;> rfl
  unfold skipDecimal?
  rw [hwhole]
  obtain ⟨cs, rfl | rfl⟩ := hr <;> rfl

/-- A number is skipped up to what comes after a field. -/
lemma skipUnsigned?_natText {n rest} (hr : Ends rest) :
    skipUnsigned? (Number.natText n ++ rest) = some rest := by
  obtain ⟨c, cs, e, -, hzero⟩ := @Number.natText_cons n
  unfold skipUnsigned?
  simp only [skipDecimal?_natText hr]
  -- a zero has no digits after it, and no other number starts with a zero
  split
  · next x d ds h =>
    rw [e, List.cons_append, List.cons.injEq] at h
    rw [hzero h.1, List.nil_append] at h
    have hx : ¬((x = 'x' ∨ x = 'X') ∧ isHexDigit d = true) := by
      obtain ⟨cs', rfl | rfl⟩ := hr
      · rw [← (List.cons.inj h.2).1]
        exact fun hx => hx.1.elim (by decide) (by decide)
      · rw [← (List.cons.inj h.2).1]
        exact fun hx => hx.1.elim (by decide) (by decide)
    rw [if_neg hx]
    rfl
  · rfl

/-- The sign of a written integer is split from its digits. -/
lemma splitSign_intText {n : Int} {rest} :
    Number.splitSign (Number.intText n ++ rest) =
      (decide (n < 0), Number.natText n.natAbs ++ rest) := by
  rw [Number.intText]
  by_cases h : n < 0
  · simp [h, Number.splitSign]
  · obtain ⟨c, cs, e, hc, -⟩ := @Number.natText_cons n.natAbs
    rw [if_neg h, e, List.cons_append, decide_eq_false h]
    have h₁ : c ≠ '-' := by
      rintro rfl
      cases hc
    have h₂ : c ≠ '+' := by
      rintro rfl
      cases hc
    simp [Number.splitSign, h₁, h₂]

/-- A written integer is read up to what comes after a field. -/
lemma number?_intText {n rest} (hr : Ends rest) :
    number? (Number.intText n ++ rest) = some (Number.intText n, rest) := by
  rw [number?, splitSign_intText]
  simp only [skipUnsigned?_natText hr, Option.map_some, List.length_append, Nat.add_sub_cancel]
  rw [List.take_left]

/-- The text of an integer has nothing but digits and a sign. -/
lemma of_mem_intText {n : Int} {c} (h : c ∈ Number.intText n) : c = '-' ∨ c.isDigit = true := by
  rw [Number.intText] at h
  split at h
  · exact (List.mem_cons.1 h).imp_right Number.isDigit_of_mem_natText
  · exact .inr (Number.isDigit_of_mem_natText h)

/-- The text of an integer has no hexadecimal digits. -/
lemma hexDigits?_intText {n : Int} : hexDigits? (Number.intText n) = none := by
  obtain ⟨c, cs, e, -, hzero⟩ := @Number.natText_cons n.natAbs
  rw [Number.intText, e]
  by_cases hn : n < 0
  · rw [if_pos hn]
    rfl
  rw [if_neg hn]
  by_cases h : c = '0'
  · rw [h, hzero h]
    rfl
  · unfold hexDigits?
    split
    · next h' =>
      rw [List.cons.injEq] at h'
      exact (h h'.1).elim
    · rfl

/-- The text of a small integer spells it. -/
lemma integer?_intText {n : Int} (h : n.natAbs < 9000000000000000) :
    integer? (Number.intText n) = some n := by
  have hs := @splitSign_intText n []
  rw [List.append_nil, List.append_nil] at hs
  have hdigits : Number.natText n.natAbs ≠ [] ∧ (Number.natText n.natAbs).all Char.isDigit = true :=
    ⟨Nat.toDigits_ne_nil, List.all_eq_true.2 fun _ => Number.isDigit_of_mem_natText⟩
  have hsign : (if n < 0 then -(n.natAbs : Int) else n.natAbs) = n := by
    split <;> omega
  have hpow : (Nat.pow 2 63 : Nat) = 9223372036854775808 := rfl
  simp only [integer?, hs, if_pos hdigits, Number.digitsValue_natText, decide_eq_true_eq,
    hsign, hpow]
  exact if_pos (by omega)

/-- A small integer has the value that is written. -/
lemma numberValue_intText {n : Int} (h : n.natAbs < 9000000000000000) :
    numberValue (Number.intText n) = .num (.int n) := by
  have hsign : ∀ c ∈ Number.intText n, (c == '.' || c == 'e' || c == 'E') = false := by
    intro c hc
    rcases of_mem_intText hc with rfl | hd
    · rfl
    · simp only [Bool.or_eq_false_iff, beq_eq_false_iff_ne]
      refine ⟨⟨?_, ?_⟩, ?_⟩ <;> rintro rfl <;> cases hd
  have hany : (Number.intText n).any (fun c => c == '.' || c == 'e' || c == 'E') = false := by
    rw [List.any_eq_false]
    exact fun c hc => ne_true_of_eq_false (hsign c hc)
  have hname : ∀ c cs, c ∈ ['I', 'N'] → c ∈ cs → Number.intText n ≠ cs := by
    rintro c cs hc hmem rfl
    rcases of_mem_intText hmem with rfl | hd
    · simp at hc
    · simp only [List.mem_cons, List.not_mem_nil, or_false] at hc
      rcases hc with rfl | rfl <;> cases hd
  unfold numberValue
  simp only [hexDigits?_intText, hany, integer?_intText h]
  rw [if_neg (hname 'I' _ (by simp) (by decide)), if_neg (hname 'I' _ (by simp) (by decide)),
    if_neg (not_or.2 ⟨hname 'N' _ (by simp) (by decide), hname 'N' _ (by simp) (by decide)⟩)]
  rfl

/-- A digit is no white space. -/
lemma isFiller_of_isDigit {c : Char} (h : c.isDigit = true) : isFiller c = false := by
  have := @Text.forall_isDigit (!isFiller ·) (by decide) c h
  simpa using this

/-- A leaf is read as a value after a space. -/
lemma value?_eq_leaf? {fuel c cs} (hc : isFiller c = false) (hne : c ∉ ['/', '[', '\x7b']) :
    value? (fuel + 1) (' ' :: c :: cs) = leaf? (c :: cs) := by
  simp only [List.mem_cons, List.not_mem_nil, or_false, not_or] at hne
  have hskip : skipFiller (' ' :: c :: cs) = c :: cs := by
    refine skipFillerFrom_append [' '] ?_ hc hne.1 (by simp)
    intro d hd
    rw [List.mem_singleton.1 hd]
    rfl
  rw [value?, hskip]
  split
  · next h' => exact (hne.2.1 (List.cons.inj h').1).elim
  · next h' => exact (hne.2.2 (List.cons.inj h').1).elim
  · rfl

/-- A number is read as a value after a space. -/
lemma value?_of_number? {fuel c cs text rest} (hc : c = '-' ∨ c.isDigit = true)
    (h : number? (c :: cs) = some (text, rest)) :
    value? (fuel + 1) (' ' :: c :: cs) = some (numberValue text, rest) := by
  -- no other kind of value starts with a digit or a minus sign
  have hne : ∀ d, d ≠ '-' → d.isDigit = false → d ≠ c := by
    rintro d hd hdigit rfl
    exact hc.elim hd (ne_true_of_eq_false hdigit)
  have hdrop : ∀ d ds, d ≠ '-' → d.isDigit = false →
      Text.dropPrefix? (d :: ds) (c :: cs) = none := by
    intro d ds hd hdigit
    rw [Text.dropPrefix?, if_neg (hne d hd hdigit)]
  have hfiller : isFiller c = false := by
    obtain rfl | hc := hc
    · rfl
    · exact isFiller_of_isDigit hc
  have hsign : c ∉ ['/', '[', '\x7b'] := by
    intro hmem
    simp only [List.mem_cons, List.not_mem_nil, or_false] at hmem
    rcases hmem with rfl | rfl | rfl
    · exact hne '/' (by decide) rfl rfl
    · exact hne '[' (by decide) rfl rfl
    · exact hne '\x7b' (by decide) rfl rfl
  rw [value?_eq_leaf? hfiller hsign]
  unfold leaf?
  rw [show "null".toList = ['n', 'u', 'l', 'l'] from rfl,
    show "true".toList = ['t', 'r', 'u', 'e'] from rfl,
    show "false".toList = ['f', 'a', 'l', 's', 'e'] from rfl, hdrop 'n' _ (by decide) rfl,
    hdrop 't' _ (by decide) rfl, hdrop 'f' _ (by decide) rfl]
  simp only [h]
  split
  · next h' => exact (hne '\x22' (by decide) rfl (List.cons.inj h').1.symm).elim
  · next h' => exact (hne '\x27' (by decide) rfl (List.cons.inj h').1.symm).elim
  · rfl

/-- Whether a leaf is read as what is written for it. -/
def LegibleLeaf (leaf : Scalar) : Prop :=
  ∀ level fuel rest, Ends rest →
    value? (fuel + 1) (' ' :: (leaf.toJson.prettyChars level ++ rest)) = some (leaf.toJson, rest)

/-- Whether the keys and leaves of a tree are read as what is written for them. -/
def Legible : Tree → Prop
  | .nil => True
  | .leaf key value rest =>
    Text.isUnseparated key.toList = true ∧ LegibleLeaf value ∧ Legible rest
  | .table key sub rest => Text.isUnseparated key.toList = true ∧ Legible sub ∧ Legible rest

/-- A text is read as what is written for it. -/
lemma legibleLeaf_text {s} (hs : Text.isUnseparated s.toList = true) : LegibleLeaf (.text s) :=
  fun _ _ _ _ => (value?_eq_leaf? rfl (by decide)).trans (leaf?_quoted hs)

/-- A number is read as what is written for it if its text is one number with that value. -/
lemma legibleLeaf_of_number? {leaf : Scalar} {n : Json.Number} (e : leaf.toJson = .num n)
    (hstart : ∃ c cs, n.text = c :: cs ∧ (c = '-' ∨ c.isDigit = true))
    (hread : ∀ rest, Ends rest → number? (n.text ++ rest) = some (n.text, rest))
    (hvalue : numberValue n.text = .num n) : LegibleLeaf leaf := by
  intro level fuel rest hr
  have hnumber := hread rest hr
  obtain ⟨c, cs, hcs, hc⟩ := hstart
  rw [e, show prettyChars level (.num n) = n.text from rfl, ← hvalue]
  rw [hcs] at hnumber ⊢
  exact value?_of_number? hc hnumber

/-- A small integer is read as what is written for it. -/
lemma legibleLeaf_int {leaf : Scalar} {n : Int} (h : n.natAbs < 9000000000000000)
    (e : leaf.toJson = .num (.int n)) : LegibleLeaf leaf := by
  refine legibleLeaf_of_number? e ?_ (fun _ => number?_intText) (numberValue_intText h)
  obtain ⟨c, cs, hcs⟩ : ∃ c cs, Number.intText n = c :: cs := by
    obtain ⟨c, cs, e, -⟩ := @Number.natText_cons n.natAbs
    rw [Number.intText, e]
    split
    · exact ⟨_, _, rfl⟩
    · exact ⟨_, _, rfl⟩
  exact ⟨c, cs, hcs, of_mem_intText (by rw [hcs]; exact List.mem_cons_self)⟩

/-- The keys and leaves of a plain tree are read as what is written for them. -/
lemma legible_of_isPlain {tree : Tree} (h : tree.isPlain = true) : Legible tree := by
  induction tree with
  | nil => exact trivial
  | leaf key value more ih =>
    simp only [Tree.isPlain, Bool.and_eq_true] at h
    refine ⟨h.1.1, ?_, ih h.2⟩
    obtain ⟨s, rfl, hs⟩ | ⟨n, hn, -, e⟩ := value.isPlain_cases h.1.2
    · exact legibleLeaf_text hs
    · exact legibleLeaf_int hn e
  | table key sub more ihsub ih =>
    simp only [Tree.isPlain, Bool.and_eq_true] at h
    exact ⟨h.1.1, ihsub h.1.2, ih h.2⟩

/-- The text after a field: more fields, or the end of the object. -/
def afterField (level outer : Nat) (fields : List (String × Json)) (rest : List Char) : List Char :=
  if fields.isEmpty then newLine outer ++ '\x7d' :: rest
  else ',' :: (prettyFields level fields ++ newLine outer ++ '\x7d' :: rest)

/-- The text of fields is a field and the text after it. -/
lemma prettyFields_cons {level outer key value fields rest} :
    prettyFields level ((key, value) :: fields) ++ newLine outer ++ '\x7d' :: rest =
      newLine level ++ (quoted key ++
        ':' :: ' ' :: (value.prettyChars level ++ afterField level outer fields rest)) := by
  cases fields <;> simp [prettyFields, afterField]

/-- An object without more fields ends. -/
lemma fields?_nil {outer fuel rest} :
    fields? (fuel + 1) (newLine outer ++ '\x7d' :: rest) = some ([], rest) := by
  rw [fields?, skipFiller_newLine rfl (by decide)]
  rfl

/-- A field whose key and value are read as what is written for them comes before the others. -/
lemma fields?_cons {level outer key value fields fuel rest}
    (hk : Text.isUnseparated key.toList = true)
    (hv : value? (fuel + 1)
      (' ' :: (value.prettyChars level ++ afterField level outer fields rest)) =
        some (value, afterField level outer fields rest)) :
    fields? (fuel + 2)
      (prettyFields level ((key, value) :: fields) ++ newLine outer ++ '\x7d' :: rest) =
        (fields? (fuel + 1) (prettyFields level fields ++ newLine outer ++ '\x7d' :: rest)).map
          fun more => ((key, value) :: more.1, more.2) := by
  obtain ⟨parts, hkey, hfield⟩ := @key?_quoted key
    (':' :: ' ' :: (value.prettyChars level ++ afterField level outer fields rest)) hk
  have hq : ∀ cs, quoted key ++ cs = '\x22' :: (key.toList.flatMap escapeChar ++ '\x22' :: cs) := by
    simp [quoted]
  rw [hq] at hkey
  rw [prettyFields_cons, hq, fields?, skipFiller_newLine rfl (by decide)]
  split
  · next h' => exact absurd (List.cons.inj h').1 (by decide)
  simp only [hkey, bind, Option.bind, skipFiller_cons (c := ':') rfl (by decide), Text.dropPrefix?,
    if_true, hv]
  cases fields with
  | nil =>
    rw [afterField, if_pos List.isEmpty_nil, skipFiller_newLine rfl (by decide), prettyFields,
      List.nil_append, fields?_nil]
    simp only [hfield]
    rfl
  | cons field fields =>
    rw [afterField, if_neg (by simp), skipFiller_cons rfl (by decide)]
    simp only [hfield]

/-- More fields, or the end of an object, may come after a field. -/
lemma ends_afterField {level outer fields rest} : Ends (afterField level outer fields rest) := by
  rw [afterField]
  split
  · exact ⟨_, .inr rfl⟩
  · exact ⟨_, .inl rfl⟩

/-- An object is read as its fields are. -/
lemma value?_obj {level fuel rest} {fields : List (String × Json)} :
    value? (fuel + 2) (prettyChars level (.obj fields) ++ rest) =
      (fields? (fuel + 1) (prettyFields (level + 1) fields ++ newLine level ++ '\x7d' :: rest)).map
        fun fields => (.obj fields.1, fields.2) := by
  cases fields with
  | nil =>
    rw [prettyFields, List.nil_append, fields?_nil, prettyChars, value?]
    simp only [List.cons_append, List.nil_append]
    rw [skipFiller_cons rfl (by decide)]
    simp only [fields?, skipFiller_cons (c := '\x7d') rfl (by decide), Option.map_some]
  | cons field fields =>
    have e : prettyChars level (.obj (field :: fields)) ++ rest = '\x7b' ::
        (prettyFields (level + 1) (field :: fields) ++ newLine level ++ '\x7d' :: rest) := by
      simp [prettyChars]
    rw [e, value?, skipFiller_cons rfl (by decide)]
    rfl

/-- An object is read after a space as it is without it. -/
lemma value?_space {level fuel rest} {fields : List (String × Json)} :
    value? fuel (' ' :: (prettyChars level (.obj fields) ++ rest)) =
      value? fuel (prettyChars level (.obj fields) ++ rest) := by
  obtain ⟨cs, e⟩ : ∃ cs, prettyChars level (.obj fields) = '\x7b' :: cs := by
    cases fields
    · exact ⟨_, rfl⟩
    · exact ⟨_, rfl⟩
  cases fuel with
  | zero => rw [value?, value?]
  | succ fuel =>
    have hskip : skipFiller (' ' :: '\x7b' :: (cs ++ rest)) = '\x7b' :: (cs ++ rest) := by
      refine skipFillerFrom_append [' '] ?_ rfl (by decide) (by simp)
      intro d hd
      rw [List.mem_singleton.1 hd]
      rfl
    rw [e, List.cons_append, value?, value?, hskip, skipFiller_cons rfl (by decide)]

/-- The text of fields is longer than the texts of a value in it and of the fields after it. -/
lemma length_prettyFields_cons {level key} {value : Json} {fields} :
    (prettyFields level fields).length + (value.prettyChars level).length + 5 ≤
      (prettyFields level ((key, value) :: fields)).length := by
  cases fields <;> simp [prettyFields, newLine, quoted] <;> omega

/-- The text of an object is longer than the text of its fields. -/
lemma length_prettyChars_obj {level} {fields : List (String × Json)} :
    (prettyFields (level + 1) fields).length + 2 ≤ (prettyChars level (.obj fields)).length := by
  cases fields <;> simp [prettyChars, prettyFields, newLine]

/-- The fields of a legible tree are read as they are. -/
lemma fields?_toFields {tree : Tree} (h : Legible tree) {level outer fuel rest}
    (hfuel : (prettyFields level tree.toFields).length < fuel) :
    fields? fuel (prettyFields level tree.toFields ++ newLine outer ++ '\x7d' :: rest) =
      some (tree.toFields, rest) := by
  induction tree generalizing level outer fuel rest with
  | nil =>
    obtain ⟨fuel, rfl⟩ := Nat.exists_eq_succ_of_ne_zero (Nat.ne_zero_of_lt hfuel)
    exact fields?_nil
  | leaf key value more ih =>
    obtain ⟨hkey, hvalue, hmore⟩ := h
    have hlen := @length_prettyFields_cons level key value.toJson more.toFields
    rw [Tree.toFields] at hfuel ⊢
    obtain ⟨fuel, rfl⟩ : ∃ k, fuel = k + 2 := ⟨fuel - 2, by omega⟩
    rw [fields?_cons hkey (hvalue _ _ _ ends_afterField), ih hmore (by omega)]
    rfl
  | table key sub more ihsub ih =>
    obtain ⟨hkey, hsub, hmore⟩ := h
    have hlen := @length_prettyFields_cons level key (.obj sub.toFields) more.toFields
    have hsublen := @length_prettyChars_obj level sub.toFields
    rw [Tree.toFields] at hfuel ⊢
    obtain ⟨fuel, rfl⟩ : ∃ k, fuel = k + 3 := ⟨fuel - 3, by omega⟩
    rw [fields?_cons hkey, ih hmore (by omega)]
    · rfl
    · rw [value?_space, value?_obj, ihsub hsub (by omega)]
      rfl

end Json.Relaxed

namespace State

/-- The fields of a plain tree are inserted as the entries of the tree. -/
lemma spelledBy_toFields {tree : Tree} (h : tree.isPlain = true) :
    tree.SpelledBy tree.toFields := by
  induction tree with
  | nil => exact .nil
  | leaf key value more ih =>
    simp only [Tree.isPlain, Bool.and_eq_true] at h
    refine .leaf ?_ (ih h.2)
    obtain ⟨s, rfl, -⟩ | ⟨n, -, hvalue, e⟩ := value.isPlain_cases h.1.2
    · rfl
    · rw [e, hvalue]
      rfl
  | table key sub more ihsub ih =>
    simp only [Tree.isPlain, Bool.and_eq_true] at h
    exact .table (ihsub h.1.2) (ih h.2)

/-- A legible state that is written with one key a line is read as what is written for it. -/
lemma readRelaxed_of_legible {state : State} (h : Json.Relaxed.Legible state.tree) {ending}
    (hending : ending = [] ∨ ending = ['\n']) :
    readRelaxed (state.toJson.prettyChars 0 ++ ending) = ofJson state.toJson := by
  have hlen := @Json.Relaxed.length_prettyChars_obj 0 state.tree.toFields
  have hvalue : Json.Relaxed.value? (2 * (state.toJson.prettyChars 0 ++ ending).length + 2)
      (state.toJson.prettyChars 0 ++ ending) = some (state.toJson, ending) := by
    rw [toJson, List.length_append, Json.Relaxed.value?_obj,
      Json.Relaxed.fields?_toFields h (by omega)]
    rfl
  have hskip : (Json.Relaxed.skipFiller ending).isEmpty = true := by
    obtain rfl | rfl := hending
    · rfl
    · rfl
  rw [readRelaxed, Json.readRelaxed, hvalue]
  simp only [bind, Option.bind, hskip, if_true]

/-- A plain state that is written with one key a line is read as the same state. -/
lemma readRelaxed_prettyChars {state : State} (h : state.tree.isPlain = true) :
    readRelaxed (state.toJson.prettyChars 0 ++ ['\n']) = .ok state := by
  obtain ⟨state', hadd, htree⟩ := @addFields_of_spelledBy _ _
    (spelledBy_toFields h) state.distinct .empty (fun _ _ => List.not_mem_nil)
  rw [readRelaxed_of_legible (Json.Relaxed.legible_of_isPlain h) (.inr rfl), toJson, ofJson,
    addWhole_eq fieldsFault?_toFields, hadd]
  exact congrArg Except.ok (State.ext htree)

end State

end Gamebook
