import Gamebook.Proofs.Numerals

/-!
# Maximal munch

A text is scanned from its start on. Blanks between tokens are passed over, and each token is what
the longest match at its place is read as; where some rule and the one of names match equally much,
it is not a name. Scanning breaks off where no rule matches, and at dice with a number of more than
32 bits, and nothing before that place is lost. Main definitions: `Token.Rule.IsLongest`,
`Token.Rule.Reads`, `Token.Munched`, `Token.Stuck`, `Token.Layout`. Main statements:
`Token.longest?_eq_some_iff`, `Token.Munched.layout`, `Token.scan_munches`.
-/

namespace Gamebook.Token

section Rules

namespace Rule

variable {rule other : Rule} {slice rest : List Char}

/-- The rules that win over the one of names. -/
def special : List Rule :=
  all.take 10

/-- The rules after the one of names. -/
def signs : List Rule :=
  all.drop 11

lemma all_eq : all = special ++ ident :: signs :=
  rfl

lemma ident_not_mem_special : ident ∉ special := by
  simp [special, all]

lemma exists_of_mem_signs :
    ∀ rule ∈ signs, ∃ text token, rule = fixed text token ∧ isWord text.toList = false := by
  simp [signs, all]
  decide

/-- What a sign matches is no word. -/
lemma isWord_of_mem_signs (hr : rule ∈ signs) (h : rule.Matches slice) : isWord slice = false := by
  obtain ⟨text, token, rfl, hword⟩ := exists_of_mem_signs rule hr
  rwa [eq_of_matches_fixed h]

/-- What a rule matches is not empty. -/
lemma Matches.ne_nil (hr : rule ∈ all) (h : rule.Matches slice) : slice ≠ [] := by
  cases h with
  | percent => exact List.append_ne_nil_of_right_ne_nil _ (List.cons_ne_nil _ _)
  | sides => exact List.append_ne_nil_of_right_ne_nil _ (List.cons_ne_nil _ _)
  | whole hdigits => exact hdigits.1
  | fraction => exact List.append_ne_nil_of_right_ne_nil _ (List.cons_ne_nil _ _)
  | fixed => simpa using of_fixedAll (p := fun text _ => !text.toList.isEmpty) (by decide) hr
  | ident hword =>
    rintro rfl
    cases hword

/-- No fixed text is dice or a number. -/
lemma not_matches_of_fixed {text token} (h : fixed text token ∈ all) :
    ¬dice.Matches text.toList ∧ ¬number.Matches text.toList := by
  have hreach := of_fixedAll (p := fun text _ => dice.reach text.toList == 0 &&
    number.reach text.toList == 0) (by decide) h
  rw [Bool.and_eq_true, beq_iff_eq, beq_iff_eq] at hreach
  have hne := (@Matches.fixed text token).ne_nil h
  have unreached {rule : Rule} (hzero : rule.reach text.toList = 0) :
      ¬rule.Matches text.toList := by
    intro hmatch
    have hle := @Matches.le_reach _ _ [] hmatch
    rw [List.append_nil, hzero, Nat.le_zero, List.length_eq_zero_iff] at hle
    exact hne hle
  exact ⟨unreached hreach.1, unreached hreach.2⟩

end Rule

/-- Whether two texts, with a `d` between them, are dice. -/
structure IsDice (count sides : List Char) : Prop where
  /-- The count, which may be left out, consists of digits. -/
  count : ∀ c ∈ count, c.isDigit = true
  /-- The sides are a `%` or digits. -/
  sides : sides = ['%'] ∨ IsDigits sides

namespace Rule

variable {rule other : Rule} {slice rest : List Char}

lemma matches_dice_iff :
    dice.Matches slice ↔ ∃ count sides, slice = count ++ 'd' :: sides ∧ IsDice count sides := by
  constructor
  · intro h
    cases h with
    | percent hcount => exact ⟨_, _, rfl, hcount, .inl rfl⟩
    | sides hcount hsides => exact ⟨_, _, rfl, hcount, .inr hsides⟩
  · rintro ⟨count, sides, rfl, hcount, rfl | hsides⟩
    · exact .percent hcount
    · exact .sides hcount hsides

/-- Where two rules match the same text, one of them is that of names. -/
lemma Matches.eq_of_ne_ident (hr : rule ∈ all) (ho : other ∈ all) (h : rule.Matches slice)
    (h' : other.Matches slice) (hrule : rule ≠ .ident) (hother : other ≠ .ident) :
    other = rule := by
  -- dice have a letter, which numbers have not, and no fixed text is one of them
  have apart (hd : dice.Matches slice) : ¬number.Matches slice := fun hn => by
    obtain ⟨count, sides, rfl, -⟩ := matches_dice_iff.1 hd
    exact hn.d_not_mem (List.mem_append_right _ List.mem_cons_self)
  cases rule with
  | dice =>
    cases other with
    | dice => rfl
    | number => exact (apart h h').elim
    | fixed text token =>
      rw [eq_of_matches_fixed h'] at h
      exact ((not_matches_of_fixed ho).1 h).elim
    | ident => exact (hother rfl).elim
  | number =>
    cases other with
    | dice => exact (apart h' h).elim
    | number => rfl
    | fixed text token =>
      rw [eq_of_matches_fixed h'] at h
      exact ((not_matches_of_fixed ho).2 h).elim
    | ident => exact (hother rfl).elim
  | fixed text token =>
    obtain rfl := eq_of_matches_fixed h
    cases other with
    | dice => exact ((not_matches_of_fixed hr).1 h').elim
    | number => exact ((not_matches_of_fixed hr).2 h').elim
    | fixed text' token' =>
      obtain rfl : text = text' := String.toList_inj.1 (eq_of_matches_fixed h')
      have htokens := of_fixedAll (p := fun text token => fixedAll fun text' token' =>
        text != text' || token = token') (by decide) hr
      have htoken := of_fixedAll htokens ho
      rw [bne_self_eq_false, Bool.false_or, decide_eq_true_eq] at htoken
      rw [htoken]
    | ident => exact (hother rfl).elim
  | ident => exact (hrule rfl).elim

/-- Whether a rule has the longest match at the start of a text. -/
structure IsLongest (rule : Rule) (slice rest : List Char) : Prop where
  /-- The rule is one of those for tokens. -/
  mem : rule ∈ all
  /-- The rule matches the slice. -/
  matches_slice : rule.Matches slice
  /-- No rule matches more of the text. -/
  longest : ∀ other ∈ all, ∀ found more, slice ++ rest = found ++ more → other.Matches found →
    found.length ≤ slice.length
  /-- No other rule matches equally much, but for the one of names. -/
  first : ∀ other ∈ all, other.Matches slice → other = rule ∨ other = ident

end Rule

variable {rules before after : List Rule} {rule other : Rule} {slice rest cs : List Char} {n : Nat}

/-- A rule that reaches as far as the longest match wins over all rules after it. -/
lemma mem_of_longest? (h : longest? cs (before ++ after) = some (rule, n)) (ho : other ∈ before)
    (hn : n ≤ other.reach cs) : rule ∈ before := by
  induction before with
  | nil => cases ho
  | cons first before ih =>
    rw [List.cons_append, longest?] at h
    cases e : longest? cs (before ++ after) with
    | none =>
      rw [e] at h
      simp only at h
      split at h <;> cases h
      exact List.mem_cons_self
    | some found =>
      rw [e] at h
      simp only at h
      split at h
      · cases h
        exact List.mem_cons_self
      · next hlt =>
        cases h
        obtain rfl | ho := List.mem_cons.1 ho
        · exact (hlt hn).elim
        · exact List.mem_cons_of_mem _ (ih e ho)

/-- The rule that is found has the longest match. -/
lemma isLongest_of_longest? (h : longest? (slice ++ rest) Rule.all = some (rule, slice.length)) :
    rule.IsLongest slice rest := by
  obtain ⟨hmem, -, -, hmost⟩ := longest?_some h
  have hmatch : rule.Matches slice := by
    obtain ⟨found, more, happ, hmatch, hlength⟩ := exists_slice_of_longest? h
    rwa [(List.append_inj happ hlength.symm).1]
  refine ⟨hmem, hmatch, fun other ho found more happ hfound => ?_, fun other ho hother => ?_⟩
  · have hle := @Rule.Matches.le_reach _ _ more hfound
    rw [← happ] at hle
    exact Nat.le_trans hle (hmost other ho)
  · by_contra hne
    obtain ⟨hne, hident⟩ := not_or.1 hne
    by_cases hrule : rule = .ident
    · -- a rule that matches a word as well comes before that of names
      subst hrule
      have hspecial : other ∈ Rule.special := by
        rw [Rule.all_eq, List.mem_append, List.mem_cons] at ho
        obtain ho | ho | ho := ho
        · exact ho
        · exact (hident ho).elim
        · have hword := Rule.isWord_of_matches hmatch
          rw [Rule.isWord_of_mem_signs ho hother] at hword
          cases hword
      rw [Rule.all_eq] at h
      exact Rule.ident_not_mem_special (mem_of_longest? h hspecial hother.le_reach)
    · exact hne (hmatch.eq_of_ne_ident hmem ho hother hrule hident)

/-- The rule that is found is the one with the longest match. -/
lemma longest?_eq_some_iff :
    longest? (slice ++ rest) Rule.all = some (rule, slice.length) ↔ rule.IsLongest slice rest := by
  refine ⟨isLongest_of_longest?, fun h => ?_⟩
  obtain ⟨other, ho, more, rest', rfl, hmatch, hlongest⟩ :=
    exists_longest rest h.mem h.matches_slice (h.matches_slice.ne_nil h.mem)
  have hlength := h.longest other ho _ rest' (List.append_assoc ..).symm hmatch
  obtain rfl : more = [] := by
    rw [List.length_append] at hlength
    exact List.length_eq_zero_iff.1 (by omega)
  rw [List.append_nil] at hmatch hlongest
  -- of two rules with the longest match, each is the other or that of names
  obtain rfl | hident := h.first other ho hmatch
  · exact hlongest
  · have found := isLongest_of_longest? hlongest
    obtain rfl | hrule := found.first rule h.mem h.matches_slice
    · exact hlongest
    · rw [hrule, ← hident]
      exact hlongest

end Rules

section Readings

variable {rule : Rule} {slice count sides : List Char} {token : Token}

/-- How many dice a count asks for. -/
def countOf (count : List Char) : Nat :=
  if count = [] then 1 else Number.digitsValue count

/-- How many sides dice have. -/
def sidesOf (sides : List Char) : Nat :=
  if sides = ['%'] then 100 else Number.digitsValue sides

/-- The token that a rule reads a text as. -/
inductive Rule.Reads : Rule → List Char → Token → Prop where
  | dice {count sides : List Char} :
    IsDice count sides → countOf count < Nat.pow 2 32 → sidesOf sides < Nat.pow 2 32 →
    Reads dice (count ++ 'd' :: sides) (.dice (countOf count) (sidesOf sides))
  | number {digits : List Char} {x : Float} :
    Number.read? digits = some x → Reads number digits (.number x)
  | fixed {text : String} {token : Token} : Reads (fixed text token) text.toList token
  | ident {name : List Char} : Reads ident name (.ident (.ofList name))

/-- Dice are read unless a number is too large. -/
lemma token?_of_isDice (h : IsDice count sides) :
    Rule.dice.token? (count ++ 'd' :: sides) =
      if countOf count < Nat.pow 2 32 ∧ sidesOf sides < Nat.pow 2 32 then
        some (.dice (countOf count) (sidesOf sides))
      else none := by
  have hcount : 'd' ∉ count := fun hd => absurd (h.count 'd' hd) (by decide)
  have hnumbers : Rule.dice.token? (count ++ 'd' :: sides) =
      (if count = [] then some 1 else small? count).bind fun n =>
        (if sides = ['%'] then some 100 else small? sides).bind fun m => some (.dice n m) := by
    rw [Rule.token?, Text.cutAtFirst?_append hcount]
    simp only [Option.bind_eq_bind, Option.bind_some]
    split <;> split <;> rfl
  have hfirst : (if count = [] then some 1 else small? count) =
      if countOf count < Nat.pow 2 32 then some (countOf count) else none := by
    rw [countOf]
    split <;> rfl
  have hsecond : (if sides = ['%'] then some 100 else small? sides) =
      if sidesOf sides < Nat.pow 2 32 then some (sidesOf sides) else none := by
    rw [sidesOf]
    split <;> rfl
  rw [hnumbers, hfirst, hsecond]
  by_cases hn : countOf count < Nat.pow 2 32
  · rw [if_pos hn, Option.bind_some]
    by_cases hm : sidesOf sides < Nat.pow 2 32
    · rw [if_pos hm, if_pos ⟨hn, hm⟩, Option.bind_some]
    · rw [if_neg hm, if_neg (mt And.right hm), Option.bind_none]
  · rw [if_neg hn, if_neg (mt And.left hn), Option.bind_none]

/-- What a rule reads is the token of the rule. -/
lemma Rule.Reads.token?_eq (h : rule.Reads slice token) : rule.token? slice = some token := by
  cases h with
  | dice hdice hcount hsides => rw [token?_of_isDice hdice, if_pos ⟨hcount, hsides⟩]
  | number hread => rw [Rule.token?, hread, Option.map_some]
  | fixed => rfl
  | ident => rfl

/-- A rule reads what it matches, but for dice with a number that is too large. -/
lemma Rule.Matches.reads_or (h : rule.Matches slice) :
    (∃ token, rule.Reads slice token) ∨
      rule = .dice ∧ ∃ count sides, slice = count ++ 'd' :: sides ∧ IsDice count sides ∧
        (Nat.pow 2 32 ≤ countOf count ∨ Nat.pow 2 32 ≤ sidesOf sides) := by
  cases rule with
  | dice =>
    obtain ⟨count, sides, rfl, hdice⟩ := Rule.matches_dice_iff.1 h
    by_cases hsmall : countOf count < Nat.pow 2 32 ∧ sidesOf sides < Nat.pow 2 32
    · exact .inl ⟨_, .dice hdice hsmall.1 hsmall.2⟩
    · rw [Decidable.not_and_iff_or_not, Nat.not_lt, Nat.not_lt] at hsmall
      exact .inr ⟨rfl, count, sides, rfl, hdice, hsmall⟩
  | number =>
    obtain ⟨x, hx⟩ := Number.exists_read h
    exact .inl ⟨_, .number hx⟩
  | fixed text token =>
    rw [Rule.eq_of_matches_fixed h]
    exact .inl ⟨_, .fixed⟩
  | ident => exact .inl ⟨_, .ident⟩

end Readings

/--
A text from an offset on, scanned up to an offset: blanks, and for each token the longest match at
its place, which is read as the token. The text after that is left.
-/
inductive Munched : Nat → List Char → List Located → Nat → List Char → Prop where
  | done {offset : Nat} {rest : List Char} : Munched offset rest [] offset rest
  | gap {offset stop : Nat} {c : Char} {cs rest : List Char} {ls : List Located} :
    isGap c = true → Munched (offset + Text.charSize c) cs ls stop rest →
    Munched offset (c :: cs) ls stop rest
  | token {offset stop : Nat} {rule : Rule} {slice cs rest : List Char} {token : Token}
      {ls : List Located} :
    rule.IsLongest slice cs → rule.Reads slice token →
    Munched (offset + Text.byteSize slice) cs ls stop rest →
    Munched offset (slice ++ cs) (⟨token, offset, offset + Text.byteSize slice⟩ :: ls) stop rest

/-- A text at whose start there is no token, and what is complained about. -/
inductive Stuck : List Char → List Char → Prop where
  | unmatched {c : Char} {cs : List Char} :
    isGap c = false →
    (∀ rule ∈ Rule.all, ∀ found more, c :: cs = found ++ more → ¬rule.Matches found) →
    Stuck (c :: cs) [c]
  | tooLarge {count sides cs : List Char} :
    IsDice count sides → Rule.dice.IsLongest (count ++ 'd' :: sides) cs →
    Nat.pow 2 32 ≤ countOf count ∨ Nat.pow 2 32 ≤ sidesOf sides →
    Stuck (count ++ 'd' :: sides ++ cs) (count ++ 'd' :: sides)

/-- How tokens lie in a text from an offset on that is scanned up to an offset. -/
structure Layout (offset : Nat) (cs : List Char) (ls : List Located) (stop : Nat)
    (rest : List Char) : Prop where
  /-- What is left starts where scanning stops. -/
  covered : ∃ before, cs = before ++ rest ∧ stop = offset + Text.byteSize before
  /-- No token is empty, and all lie in what is scanned. -/
  within : ∀ l ∈ ls, offset ≤ l.start ∧ l.start < l.stop ∧ l.stop ≤ stop
  /-- The tokens come one after the other. -/
  apart : ls.Pairwise fun l later => l.stop ≤ later.start
  /-- Each token is what the longest match at its start is read as. -/
  tokens : ∀ l ∈ ls, ∃ before slice after rule, cs = before ++ (slice ++ after) ∧
    l.start = offset + Text.byteSize before ∧ l.stop = l.start + Text.byteSize slice ∧
      Rule.IsLongest rule slice after ∧ rule.Reads slice l.token
  /-- What lies in no token is a blank. -/
  gaps : ∀ before c after, cs = before ++ c :: after → offset + Text.byteSize before < stop →
    (∀ l ∈ ls, offset + Text.byteSize before < l.start ∨ l.stop ≤ offset + Text.byteSize before) →
      isGap c = true

namespace Layout

variable {offset stop : Nat} {pre before after cs rest : List Char} {c : Char} {ls : List Located}

lemma covered_append (h : Layout (offset + Text.byteSize pre) cs ls stop rest) :
    ∃ before, pre ++ cs = before ++ rest ∧ stop = offset + Text.byteSize before := by
  obtain ⟨before, rfl, rfl⟩ := h.covered
  exact ⟨pre ++ before, (List.append_assoc ..).symm, by rw [Text.byteSize_append, Nat.add_assoc]⟩

lemma tokens_append (h : Layout (offset + Text.byteSize pre) cs ls stop rest) :
    ∀ l ∈ ls, ∃ before slice after rule, pre ++ cs = before ++ (slice ++ after) ∧
      l.start = offset + Text.byteSize before ∧ l.stop = l.start + Text.byteSize slice ∧
        Rule.IsLongest rule slice after ∧ rule.Reads slice l.token := by
  intro l hl
  obtain ⟨before, slice, after, rule, rfl, hstart, hrest⟩ := h.tokens l hl
  refine ⟨pre ++ before, slice, after, rule, (List.append_assoc ..).symm, ?_, hrest⟩
  rw [hstart, Text.byteSize_append, Nat.add_assoc]

/-- What lies in no token is a blank, or in what comes before the text. -/
lemma gaps_append (h : Layout (offset + Text.byteSize pre) cs ls stop rest)
    (hcs : pre ++ cs = before ++ c :: after) (hstop : offset + Text.byteSize before < stop)
    (hout : ∀ l ∈ ls,
      offset + Text.byteSize before < l.start ∨ l.stop ≤ offset + Text.byteSize before) :
    isGap c = true ∨ ∃ more, pre = before ++ c :: more := by
  -- where the text starts, or after it
  have later {more : List Char} (hbefore : before = pre ++ more) (hmore : cs = more ++ c :: after) :
      isGap c = true := by
    subst hbefore
    rw [Text.byteSize_append, ← Nat.add_assoc] at hstop hout
    exact h.gaps more c after hmore hstop hout
  obtain ⟨more, hbefore, hmore⟩ | ⟨more, hpre, hmore⟩ := List.append_eq_append_iff.1 hcs
  · exact .inl (later hbefore hmore)
  · cases more with
    | nil => exact .inl (@later [] (by rw [hpre, List.append_nil, List.append_nil]) hmore.symm)
    | cons d more =>
      rw [List.cons_append] at hmore
      obtain ⟨rfl, -⟩ := List.cons.inj hmore
      exact .inr ⟨more, hpre⟩

lemma done : Layout offset rest [] offset rest where
  covered := ⟨[], rfl, rfl⟩
  within := List.forall_mem_nil _
  apart := .nil
  tokens := List.forall_mem_nil _
  gaps _ _ _ _ hstop := absurd hstop (Nat.not_lt_of_le (Nat.le_add_right _ _))

/-- A blank may stand before what is laid out. -/
lemma gap (hgap : isGap c = true) (h : Layout (offset + Text.charSize c) cs ls stop rest) :
    Layout offset (c :: cs) ls stop rest := by
  have h : Layout (offset + Text.byteSize [c]) cs ls stop rest := h
  refine ⟨h.covered_append, fun l hl => ?_, h.apart, h.tokens_append, ?_⟩
  · exact ⟨Nat.le_trans (Nat.le_add_right _ _) (h.within l hl).1, (h.within l hl).2⟩
  · intro before d after hcs hstop hout
    obtain hd | ⟨more, hmore⟩ := h.gaps_append hcs hstop hout
    · exact hd
    · obtain ⟨-, hd⟩ := List.append_eq_singleton_iff.1 hmore.symm |>.resolve_right (by simp)
      rwa [(List.cons.inj hd).1]

/-- A token may stand before what is laid out. -/
lemma token {rule : Rule} {slice : List Char} {token : Token} (hlongest : rule.IsLongest slice cs)
    (hreads : rule.Reads slice token)
    (h : Layout (offset + Text.byteSize slice) cs ls stop rest) :
    Layout offset (slice ++ cs) (⟨token, offset, offset + Text.byteSize slice⟩ :: ls) stop
      rest := by
  have hpos := Text.byteSize_pos (hlongest.matches_slice.ne_nil hlongest.mem)
  have hstop : offset + Text.byteSize slice ≤ stop := by
    obtain ⟨before, -, rfl⟩ := h.covered
    exact Nat.le_add_right _ _
  refine ⟨h.covered_append, List.forall_mem_cons.2 ⟨⟨Nat.le_refl _, ?_, hstop⟩, fun l hl => ?_⟩,
    List.pairwise_cons.2 ⟨fun l hl => (h.within l hl).1, h.apart⟩,
    List.forall_mem_cons.2 ⟨?_, h.tokens_append⟩, ?_⟩
  · exact Nat.lt_add_of_pos_right hpos
  · exact ⟨Nat.le_trans (Nat.le_add_right _ _) (h.within l hl).1, (h.within l hl).2⟩
  · exact ⟨[], slice, cs, rule, rfl, rfl, rfl, hlongest, hreads⟩
  · intro before d after hcs hstop hout
    obtain ⟨hfirst, hout⟩ := List.forall_mem_cons.1 hout
    obtain hd | ⟨more, hmore⟩ := h.gaps_append hcs hstop hout
    · exact hd
    · -- the character is in the token
      have hd := @Text.byteSize_pos (d :: more) (List.cons_ne_nil _ _)
      rw [hmore, Text.byteSize_append] at hfirst
      simp only at hfirst
      omega

end Layout

section Scan

variable {offset stop : Nat} {cs rest bad : List Char} {ls : List Located} {text : String}

/-- What is munched is laid out in order. -/
lemma Munched.layout (h : Munched offset cs ls stop rest) : Layout offset cs ls stop rest := by
  induction h with
  | done => exact .done
  | gap hgap _ ih => exact ih.gap hgap
  | token hlongest hreads _ ih => exact ih.token hlongest hreads

/-- What is munched is scanned. -/
lemma Munched.scanFrom_eq (h : Munched offset cs ls stop rest) :
    scanFrom offset 0 cs = (scanFrom stop 0 rest).map (ls ++ ·) := by
  induction h with
  | @done offset rest => cases scanFrom offset 0 rest <;> rfl
  | gap hgap _ ih => rw [scanFrom_gap hgap, ih]
  | @token offset stop rule slice cs rest token ls hlongest hreads _ ih =>
    have hscan := longest?_eq_some_iff.2 hlongest
    have hstep : scanFrom offset 0 (slice ++ cs) =
        (scanFrom (offset + Text.byteSize slice) 0 cs).map
          (⟨token, offset, offset + Text.byteSize slice⟩ :: ·) :=
      scanFrom_longest (s := .ofLongest hscan hreads.token?_eq) hscan
    rw [hstep, ih]
    cases scanFrom stop 0 rest <;> rfl

/-- Dice do not start with a blank. -/
lemma IsDice.exists_cons {count sides : List Char} (h : IsDice count sides) :
    ∃ c cs, count ++ 'd' :: sides = c :: cs ∧ isGap c = false := by
  cases count with
  | nil => exact ⟨'d', sides, rfl, rfl⟩
  | cons c count =>
    refine ⟨c, count ++ 'd' :: sides, rfl, Bool.eq_false_iff.2 fun hgap => ?_⟩
    have hname := isNameChar_of_isDigit (h.count c List.mem_cons_self)
    have hblank := not_isBlank_of_isVisible (isVisible_of_isNameChar hname)
    rw [isBlank_of_isGap hgap] at hblank
    cases hblank

/-- Scanning breaks off where there is no token. -/
lemma Stuck.scanFrom_eq (h : Stuck rest bad) :
    scanFrom stop 0 rest = .error ⟨.ofList bad, stop⟩ := by
  cases h with
  | @unmatched c cs hgap hnone =>
    have hlongest : longest? (c :: cs) Rule.all = none := by
      by_contra hsome
      obtain ⟨⟨rule, n⟩, hfound⟩ := Option.ne_none_iff_exists'.1 hsome
      obtain ⟨found, more, happ, hmatch, -⟩ := exists_slice_of_longest? hfound
      exact hnone rule (longest?_some hfound).1 found more happ hmatch
    rw [scanFrom_zero, if_neg (Bool.eq_false_iff.1 hgap), hlongest]
  | @tooLarge count sides cs hdice hlongest hlarge =>
    have hscan := longest?_eq_some_iff.2 hlongest
    have hnone : Rule.dice.token? (count ++ 'd' :: sides) = none := by
      rw [token?_of_isDice hdice, if_neg (by omega)]
    obtain ⟨c, tail, hcons, hgap⟩ := hdice.exists_cons
    have htake : (count ++ 'd' :: sides ++ cs).take (count ++ 'd' :: sides).length =
        count ++ 'd' :: sides := List.take_left
    rw [hcons] at hscan hnone htake ⊢
    rw [List.cons_append] at hscan htake ⊢
    rw [scanFrom_zero, if_neg (Bool.eq_false_iff.1 hgap), hscan]
    simp only [htake, hnone]

/-- Scanning goes on to the end of a text, or to a place where there is no token. -/
lemma exists_munched (offset : Nat) (cs : List Char) :
    ∃ ls stop rest, Munched offset cs ls stop rest ∧ (rest = [] ∨ ∃ bad, Stuck rest bad) := by
  match cs with
  | [] => exact ⟨[], offset, [], .done, .inl rfl⟩
  | c :: cs =>
    by_cases hgap : isGap c = true
    · obtain ⟨ls, stop, rest, munched, hend⟩ := exists_munched (offset + Text.charSize c) cs
      exact ⟨ls, stop, rest, .gap hgap munched, hend⟩
    cases hlongest : longest? (c :: cs) Rule.all with
    | none =>
      refine ⟨[], offset, c :: cs, .done, .inr ⟨[c], .unmatched (Bool.eq_false_iff.2 hgap) ?_⟩⟩
      intro rule hmem found more happ hmatch
      have hle := @Rule.Matches.le_reach _ _ more hmatch
      rw [← happ, longest?_none hlongest rule hmem, Nat.le_zero, List.length_eq_zero_iff] at hle
      exact hmatch.ne_nil hmem hle
    | some found =>
      obtain ⟨rule, n⟩ := found
      obtain ⟨slice, rest, happ, hmatch, rfl⟩ := exists_slice_of_longest? hlongest
      have hshorter : rest.length < (c :: cs).length := by
        rw [happ, List.length_append]
        exact Nat.lt_add_of_pos_left (longest?_some hlongest).2.2.1
      rw [happ] at hlongest ⊢
      have longest := longest?_eq_some_iff.1 hlongest
      obtain ⟨token, hreads⟩ | ⟨rfl, count, sides, rfl, hdice, hlarge⟩ := hmatch.reads_or
      · obtain ⟨ls, stop, left, munched, hend⟩ :=
          exists_munched (offset + Text.byteSize slice) rest
        exact ⟨_, stop, left, .token longest hreads munched, hend⟩
      · exact ⟨[], offset, _, .done, .inr ⟨_, .tooLarge hdice longest hlarge⟩⟩
termination_by cs.length
decreasing_by
  · exact Nat.lt_succ_self _
  · exact hshorter

lemma Munched.scan_eq_ok (h : Munched 0 text.toList ls stop []) : scan text = .ok ls := by
  rw [scan, h.scanFrom_eq]
  exact congrArg Except.ok (List.append_nil ls)

lemma Munched.scan_eq_error (h : Munched 0 text.toList ls stop rest) (hs : Stuck rest bad) :
    scan text = .error ⟨.ofList bad, stop⟩ := by
  rw [scan, h.scanFrom_eq, hs.scanFrom_eq]
  rfl

/-- A text that is munched to its end has as many bytes as are scanned. -/
lemma Munched.stop_eq (h : Munched 0 cs ls stop []) : stop = Text.byteSize cs := by
  obtain ⟨before, hcs, hstop⟩ := h.layout.covered
  rw [hcs, List.append_nil, hstop, Nat.zero_add]

end Scan

/--
A text is scanned into tokens exactly if it can be munched up to its end, and scanning breaks off
exactly where it can be munched up to a place where no rule matches or where dice have a number that
is too large. The tokens up to the end or to that place are laid out in order: none is empty, each
is what the longest match at its place is read as, and what lies between them are blanks.
-/
theorem scan_munches (text : String) :
    (∀ ls, scan text = .ok ls ↔ Munched 0 text.toList ls (Text.byteSize text.toList) []) ∧
      (∀ fault, scan text = .error fault ↔
        ∃ ls rest, Munched 0 text.toList ls fault.offset rest ∧ Stuck rest fault.text.toList) ∧
      ∀ ls stop rest, Munched 0 text.toList ls stop rest →
        Layout 0 text.toList ls stop rest := by
  obtain ⟨ls, stop, rest, munched, hend⟩ := exists_munched 0 text.toList
  refine ⟨fun ls' => ⟨fun h => ?_, fun h => h.scan_eq_ok⟩, fun fault => ⟨fun h => ?_, ?_⟩,
    fun _ _ _ h => h.layout⟩
  · obtain rfl | ⟨bad, hstuck⟩ := hend
    · rw [munched.scan_eq_ok] at h
      cases h
      rwa [← munched.stop_eq]
    · rw [munched.scan_eq_error hstuck] at h
      cases h
  · obtain rfl | ⟨bad, hstuck⟩ := hend
    · rw [munched.scan_eq_ok] at h
      cases h
    · rw [munched.scan_eq_error hstuck] at h
      cases h
      exact ⟨ls, rest, munched, by rwa [String.toList_ofList]⟩
  · rintro ⟨ls', rest', h, hstuck⟩
    rw [h.scan_eq_error hstuck, String.ofList_toList]

example :
    scan "d6 d6x 2d6android<=d%" =
      .ok [⟨.dice 1 6, 0, 2⟩, ⟨.ident "d6x", 3, 6⟩, ⟨.dice 2 6, 7, 10⟩, ⟨.ident "android", 10, 17⟩,
        ⟨.op .le, 17, 19⟩, ⟨.dice 1 100, 19, 21⟩] := by
  decide +kernel

example : scan "d6 + 4294967296d6" = .error ⟨"4294967296d6", 5⟩ := by
  decide +kernel

end Gamebook.Token
