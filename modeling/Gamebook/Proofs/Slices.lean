import Gamebook.Proofs.Grammar
import Gamebook.Proofs.Scanning

/-!
# Slices next to each other

What stands next to each other in an expression stays apart where the gaps are taken out, but for a
word and what starts like the inside of a word: these become one name. Main definitions:
`Token.meet`, `Token.Respelled`. Main statements: `Token.meet_of_joins`, `Token.longest?_meet`.
-/

namespace Gamebook.Token

lemma Rule.eq_of_matches_fixed {text token cs} (h : (Rule.fixed text token).Matches cs) :
    cs = text.toList := by
  cases h
  rfl

lemma Rule.isWord_of_matches {cs} (h : Rule.ident.Matches cs) : isWord cs = true := by
  cases h
  assumption

/-- The first character of a match of a rule that has no fixed text. -/
lemma Rule.Matches.isNameChar_head {rule : Rule} {c cs} (h : rule.Matches (c :: cs))
    (hr : ∀ text token, rule ≠ .fixed text token) : isNameChar c = true := by
  have start {ds more : List Char} {d} (hds : ∀ c ∈ ds, c.isDigit = true)
      (hd : isNameChar d = true) (e : c :: cs = ds ++ d :: more) : isNameChar c = true := by
    cases ds with
    | nil =>
      cases e
      exact hd
    | cons x ds =>
      cases e
      exact isNameChar_of_isDigit (hds c List.mem_cons_self)
  generalize e : c :: cs = whole at h
  cases h with
  | percent hcount => exact start hcount (by decide) e
  | sides hcount _ => exact start hcount (by decide) e
  | whole hdigits =>
    subst e
    exact isNameChar_of_isDigit (hdigits.2 c List.mem_cons_self)
  | @fraction digits places hdigits _ =>
    obtain ⟨x, xs, rfl⟩ := List.exists_cons_of_ne_nil hdigits.1
    obtain ⟨rfl, -⟩ := List.cons.inj e
    exact isNameChar_of_isDigit (hdigits.2 c List.mem_cons_self)
  | fixed => exact (hr _ _ rfl).elim
  | ident h =>
    rw [← e, isWord, Bool.and_eq_true] at h
    exact isNameChar_of_isNameStart h.1

/-- What starts like a name is dice, a fixed text or a name. -/
lemma Rule.Matches.start_cases {rule : Rule} {c cs} (h : rule.Matches (c :: cs))
    (hc : isNameStart c = true) :
    rule = .dice ∧ c = 'd' ∧ (cs = ['%'] ∨ IsDigits cs) ∨
      (∃ text token, rule = .fixed text token ∧ c :: cs = text.toList) ∨ rule = .ident := by
  have hdigit : ¬c.isDigit = true := fun hd => by
    rw [not_isNameStart_of_isDigit hd] at hc
    cases hc
  generalize e : c :: cs = whole at h
  cases h with
  | @percent count hcount =>
    cases count with
    | nil =>
      cases e
      exact .inl ⟨rfl, rfl, .inl rfl⟩
    | cons x count =>
      cases e
      exact (hdigit (hcount c List.mem_cons_self)).elim
  | @sides count sides hcount hsides =>
    cases count with
    | nil =>
      cases e
      exact .inl ⟨rfl, rfl, .inr hsides⟩
    | cons x count =>
      cases e
      exact (hdigit (hcount c List.mem_cons_self)).elim
  | whole hdigits =>
    subst e
    exact (hdigit (hdigits.2 c List.mem_cons_self)).elim
  | @fraction digits places hdigits _ =>
    obtain ⟨x, xs, rfl⟩ := List.exists_cons_of_ne_nil hdigits.1
    obtain ⟨rfl, -⟩ := List.cons.inj e
    exact (hdigit (hdigits.2 c List.mem_cons_self)).elim
  | fixed => exact .inr (.inl ⟨_, _, rfl, rfl⟩)
  | ident => exact .inr (.inr rfl)

lemma small?_lt {digits n} (h : small? digits = some n) : n < Nat.pow 2 32 := by
  rw [small?] at h
  split at h
  · next hlt =>
    cases h
    exact hlt
  · cases h

/-- Dice are read as dice, and the number of their sides has 32 bits. -/
lemma Rule.token?_dice {cs t} (h : dice.token? cs = some t) :
    ∃ count sides, t = .dice count sides ∧ sides < Nat.pow 2 32 := by
  have last {count : Nat} {read : Option Nat} (hread : ∀ n, read = some n → n < Nat.pow 2 32)
      (h : (read.bind fun sides => some (Token.dice count sides)) = some t) :
      ∃ count sides, t = .dice count sides ∧ sides < Nat.pow 2 32 := by
    obtain ⟨sides, hsides, ht⟩ := Option.bind_eq_some_iff.1 h
    exact ⟨count, sides, (Option.some.inj ht).symm, hread sides hsides⟩
  have hundred : ∀ n, some 100 = some n → n < Nat.pow 2 32 := by
    rintro _ ⟨⟩
    decide
  simp only [token?, Option.bind_eq_bind, Option.bind_eq_some_iff, Option.pure_def] at h
  obtain ⟨cut, -, h⟩ := h
  split at h <;> obtain ⟨count, -, h⟩ := Option.bind_eq_some_iff.1 h <;> split at h
  · exact last hundred h
  · exact last (fun _ => small?_lt) h
  · exact last hundred h
  · exact last (fun _ => small?_lt) h

/-- The letter of dice is in no number. -/
lemma Rule.Matches.d_not_mem {cs} (h : Rule.number.Matches cs) : 'd' ∉ cs := by
  intro hd
  cases h with
  | whole hdigits => exact absurd (hdigits.2 'd' hd) (by decide)
  | fraction hdigits hplaces =>
    rw [List.mem_append, List.mem_cons] at hd
    obtain hd | hd | hd := hd
    · exact absurd (hdigits.2 'd' hd) (by decide)
    · exact absurd hd (by decide)
    · exact absurd (hplaces.2 'd' hd) (by decide)

lemma Rule.not_matches_dice {count : List Char} : ¬Rule.dice.Matches (count ++ ['d']) := by
  intro h
  have hd : (count ++ ['d']).getLast? = some 'd' := by simp
  generalize count ++ ['d'] = whole at h hd
  cases h with
  | percent _ => simp at hd
  | @sides count sides _ hsides =>
    obtain ⟨x, xs, rfl⟩ := List.exists_cons_of_ne_nil hsides.1
    rw [List.getLast?_append_cons, List.getLast?_cons_cons] at hd
    exact absurd (hsides.2 'd' (List.mem_of_getLast? hd)) (by decide)

/-- No fixed text starts with the letter of dice. -/
lemma Rule.not_fixed_d {text : String} {token cs} (h : .fixed text token ∈ Rule.all) :
    text.toList ≠ 'd' :: cs := by
  intro htext
  have hd := of_fixedAll (p := fun text _ => text.toList.head? != some 'd') (by decide) h
  rw [htext] at hd
  simp at hd

namespace Slice

variable {s : Slice} {c : Char} {cs : List Char}

/-- A slice of a rule that has a fixed text is this text; of all other rules it is an operand. -/
lemma cases (s : Slice) :
    (∃ text, .fixed text s.token ∈ Rule.all ∧ s.text = text.toList) ∨
      (∀ text token, s.rule ≠ .fixed text token) ∧ s.token.opens = true ∧ s.token.closes = true ∧
        s.token.continues = false := by
  have hmatch := s.matches_text
  have hall := s.mem_all
  have hreads := s.reads
  cases hrule : s.rule with
  | dice =>
    rw [hrule] at hreads
    obtain ⟨count, sides, ht, -⟩ := Rule.token?_dice hreads
    rw [ht]
    exact .inr ⟨by simp, rfl, rfl, rfl⟩
  | number =>
    rw [hrule] at hreads
    obtain ⟨x, -, hx⟩ := Option.map_eq_some_iff.1 hreads
    rw [← hx]
    exact .inr ⟨by simp, rfl, rfl, rfl⟩
  | fixed text token =>
    rw [hrule] at hmatch hreads hall
    obtain rfl : token = s.token := Option.some.inj hreads
    exact .inl ⟨text, hall, Rule.eq_of_matches_fixed hmatch⟩
  | ident =>
    rw [hrule] at hreads
    rw [← Option.some.inj hreads]
    exact .inr ⟨by simp, rfl, rfl, rfl⟩

/-- A slice that starts like no operand is a fixed text. -/
lemma exists_fixed (h : s.text = c :: cs)
    (hc : isNameChar c = false ∨ s.token.closes = false ∨ s.token.continues = true) :
    ∃ text, .fixed text s.token ∈ Rule.all ∧ c :: cs = text.toList := by
  obtain ⟨text, hall, htext⟩ | ⟨hrule, -, hcloses, hcontinues⟩ := s.cases
  · exact ⟨text, hall, h.symm.trans htext⟩
  have hname := (h ▸ s.matches_text).isNameChar_head hrule
  simp [hname, hcloses, hcontinues] at hc

/-- A slice with a character that stands in no name or number is a fixed text. -/
lemma exists_fixed_of_mem (hc : c ∈ s.text) (hname : isNameChar c = false)
    (hnumber : c ∉ ['.', '%']) :
    ∃ text token, .fixed text token ∈ Rule.all ∧ s.text = text.toList := by
  have hall := s.mem_all
  obtain h | h | ⟨text, token, hrule, htext⟩ := s.matches_text.mem_cases hc
  · rw [hname] at h
    cases h
  · exact (hnumber h).elim
  · rw [hrule] at hall
    exact ⟨text, token, hall, htext⟩

/-- A character that stands in no name, number or fixed text stands in no slice. -/
lemma not_mem (hname : isNameChar c = false) (hnumber : c ∉ ['.', '%'])
    (hfixed : Rule.fixedAll (fun text _ => c ∉ text.toList) = true) : c ∉ s.text := by
  intro hc
  obtain ⟨text, token, hall, htext⟩ := exists_fixed_of_mem hc hname hnumber
  exact of_decide_eq_true (Rule.of_fixedAll hfixed hall) (htext ▸ hc)

/-- A slice that starts with a digit may end an operand. -/
lemma closes_of_isDigit (h : s.text = c :: cs) (hc : c.isDigit = true) : s.token.closes = true := by
  obtain ⟨text, hall, htext⟩ | ⟨-, -, hcloses, -⟩ := s.cases
  · have hdigit := Rule.of_fixedAll (p := fun text _ => !text.toList.head?.any Char.isDigit)
      (by decide) hall
    rw [← htext, h] at hdigit
    simp [hc] at hdigit
  · exact hcloses

/-- A slice that starts with the letter of dice may end an operand. -/
lemma closes_of_d (h : s.text = 'd' :: cs) : s.token.closes = true := by
  obtain ⟨text, hall, htext⟩ | ⟨-, -, hcloses, -⟩ := s.cases
  · exact (Rule.not_fixed_d hall (htext.symm.trans h)).elim
  · exact hcloses

/-- A slice that starts a sign of two characters may not end an operand. -/
lemma not_closes_of_sign (h : s.text = [c]) (hc : c ∈ ['<', '>', '=', '!', '&', '|']) :
    s.token.closes = false := by
  have hnames : ['<', '>', '=', '!', '&', '|'].all (!isNameChar ·) = true := rfl
  have hname : isNameChar c = false := by
    simpa using List.all_eq_true.1 hnames c hc
  obtain ⟨text, hall, htext⟩ := exists_fixed h (.inl hname)
  have hsign := Rule.of_fixedAll (p := fun text token =>
    !token.closes || !text.toList.head?.any (· ∈ ['<', '>', '=', '!', '&', '|'])) (by decide) hall
  rw [← htext, List.head?_cons, Option.any_some, decide_eq_true hc] at hsign
  simpa using hsign

/-- Digits and the letter of dice are a slice only as a name. -/
lemma exists_ident {count : List Char} (h : s.text = count ++ ['d'])
    (hcount : ∀ c ∈ count, c.isDigit = true) : ∃ name, s.token = .ident name := by
  have hmatch := s.matches_text
  have hall := s.mem_all
  have hreads := s.reads
  rw [h] at hmatch
  cases hrule : s.rule with
  | dice =>
    rw [hrule] at hmatch
    exact (Rule.not_matches_dice hmatch).elim
  | number =>
    rw [hrule] at hmatch
    exact (hmatch.d_not_mem (by simp)).elim
  | fixed text token =>
    rw [hrule] at hmatch hall
    have hlast := Rule.of_fixedAll (p := fun text _ =>
      text.toList.getLast? != some 'd' || !text.toList.dropLast.all Char.isDigit) (by decide) hall
    rw [← Rule.eq_of_matches_fixed hmatch] at hlast
    simp [List.all_eq_true.2 hcount] at hlast
  | ident =>
    rw [hrule] at hreads
    exact ⟨_, (Option.some.inj hreads).symm⟩

/-- The first character of a token that may stand after an operand. -/
lemma head_of_continues (h : s.text = c :: cs) (ht : s.token.continues = true) :
    c.isDigit = false ∧ c ≠ '.' ∧ c ≠ 'd' := by
  obtain ⟨text, hall, htext⟩ := exists_fixed h (.inr (.inr ht))
  have hhead := Rule.of_fixedAll (p := fun text token =>
    !text.toList.head?.any fun c => c.isDigit || c == '.' || c == 'd') (by decide) hall
  rw [← htext] at hhead
  simpa [and_assoc] using hhead

/-- The first character of a token that may start an operand. -/
lemma head_of_opens (h : s.text = c :: cs) (ht : s.token.opens = true) : c ∉ ['=', '&', '|'] := by
  intro hc
  have hnames : ['=', '&', '|'].all (!isNameChar ·) = true := rfl
  have hname : isNameChar c = false := by
    simpa using List.all_eq_true.1 hnames c hc
  obtain ⟨text, hall, htext⟩ := exists_fixed h (.inl hname)
  have hsign := Rule.of_fixedAll (p := fun text token =>
    !token.opens || !text.toList.head?.any (· ∈ ['=', '&', '|'])) (by decide) hall
  rw [← htext, List.head?_cons, Option.any_some, decide_eq_true hc, ht] at hsign
  cases hsign

end Slice

/-- Whether a text is a word and another one starts like the inside of a word. -/
def meet (text other : List Char) : Bool :=
  isWord text && other.head?.any isNameChar

variable {s s' : Slice} {c : Char} {cs rest : List Char}

/-- In an expression, a token takes in the start of the next one only where words meet. -/
lemma meet_of_joins (hf : Follows s.token s'.token) (hs : ∀ name, s.token ≠ .ident name)
    (hc : c ∈ s'.text.head?) (h : Joins s.text c) : meet s.text s'.text = true := by
  obtain ⟨cs, hcs⟩ := List.head?_eq_some_iff.1 hc
  rw [Follows] at hf
  generalize htext : s.text = text at h
  cases h with
  | word hword hname => simp [meet, hword, hcs, hname]
  | digits hd hnext =>
    rw [Slice.closes_of_isDigit htext hd, if_pos rfl] at hf
    obtain ⟨hdigit, hpoint, hletter⟩ := Slice.head_of_continues hcs hf
    simp [hdigit, hpoint, hletter] at hnext
  | percent hcount =>
    obtain ⟨name, hname⟩ := Slice.exists_ident htext hcount
    exact (hs name hname).elim
  | sign hd hnext =>
    rw [Slice.not_closes_of_sign htext hd] at hf
    exact (Slice.head_of_opens hcs hf hnext).elim

/-- A word that is no name is dice or a fixed text. -/
lemma Slice.word_cases (hs : ∀ name, s.token ≠ .ident name) (hword : isWord s.text = true) :
    (∃ cs, s.text = 'd' :: cs) ∨
      ∃ text, .fixed text s.token ∈ Rule.all ∧ s.text = text.toList := by
  obtain ⟨c, cs, hcs, -⟩ := s.exists_cons
  have hmatch := s.matches_text
  have hall := s.mem_all
  have hreads := s.reads
  rw [hcs, isWord, Bool.and_eq_true] at hword
  rw [hcs] at hmatch
  obtain ⟨-, rfl, -⟩ | ⟨text, token, hrule, htext⟩ | hrule := hmatch.start_cases hword.1
  · exact .inl ⟨cs, hcs⟩
  · rw [hrule] at hall hreads
    obtain rfl : token = s.token := Option.some.inj hreads
    exact .inr ⟨text, hall, hcs.trans htext⟩
  · rw [hrule] at hreads
    exact (hs _ (Option.some.inj hreads).symm).elim

/-- Of two fixed texts, a word is not the start of the other. -/
lemma Rule.fixed_eq {f f' : String} {token token' more} (h : .fixed f token ∈ Rule.all)
    (h' : .fixed f' token' ∈ Rule.all) (hword : isWord f.toList = true)
    (hmore : f'.toList = f.toList ++ more) : more = [] := by
  have hpairs := of_fixedAll (p := fun f _ => !isWord f.toList || fixedAll fun f' _ =>
    !f.toList.isPrefixOf f'.toList || f'.toList == f.toList) (by decide) h
  rw [hword, Bool.not_true, Bool.false_or] at hpairs
  have hpair := of_fixedAll hpairs h'
  rw [List.isPrefixOf_iff_prefix.2 ⟨more, hmore.symm⟩, Bool.not_true, Bool.false_or, beq_iff_eq,
    hmore] at hpair
  exact List.append_right_eq_self.1 hpair

/-- What starts with a word and goes on is matched as a name only. -/
lemma Rule.Matches.eq_ident {rule : Rule} (hr : rule ∈ Rule.all)
    (h : rule.Matches (s.text ++ c :: rest)) (hs : ∀ name, s.token ≠ .ident name)
    (hword : isWord s.text = true) (hc : isNameChar c = true)
    (hnext : s.token.closes = true → c.isDigit = false) : rule = .ident := by
  obtain ⟨x, xs, hxs, -⟩ := s.exists_cons
  have hstart := hword
  rw [hxs, isWord, Bool.and_eq_true] at hstart
  rw [hxs, List.cons_append] at h
  obtain ⟨-, rfl, hsides⟩ | ⟨f, token, rfl, htext⟩ | hrule := h.start_cases hstart.1
  · have hdigit := hnext (Slice.closes_of_d hxs)
    obtain hpercent | hdigits := hsides
    · obtain ⟨-, hlast⟩ | ⟨-, hlast⟩ := List.append_eq_singleton_iff.1 hpercent
      · cases hlast
        cases hc
      · cases hlast
    · rw [hdigits.2 c (by simp)] at hdigit
      cases hdigit
  · obtain ⟨cs, hcs⟩ | ⟨f', hall', htext'⟩ := Slice.word_cases hs hword
    · obtain ⟨rfl, -⟩ := List.cons.inj (hxs.symm.trans hcs)
      exact (not_fixed_d hr htext.symm).elim
    · rw [htext'] at hword
      rw [← List.cons_append, ← hxs, htext'] at htext
      exact absurd (Rule.fixed_eq hall' hr hword htext.symm) (List.cons_ne_nil _ _)
  · exact hrule

/-- A word stays one with a character from the inside of words after it. -/
lemma isWord_concat {text : List Char} (h : isWord text = true) (hc : isNameChar c = true) :
    isWord (text ++ [c]) = true := by
  cases text with
  | nil => cases h
  | cons d ds =>
    rw [isWord, Bool.and_eq_true] at h
    rw [List.cons_append, isWord, h.1, List.all_append, h.2, List.all_cons, hc]
    rfl

/-- A word and what starts like the inside of one are scanned as a name. -/
lemma exists_name (rest : List Char) (hf : Follows s.token s'.token)
    (hs : ∀ name, s.token ≠ .ident name) (h : meet s.text s'.text = true) :
    ∃ (name : Slice) (more : List Char), name.token = .ident (.ofList name.text) ∧
      s.text ++ (s'.text ++ rest) = name.text ++ more ∧
      longest? (name.text ++ more) Rule.all = some (name.rule, name.text.length) := by
  rw [meet, Bool.and_eq_true, Option.any_eq_true] at h
  obtain ⟨hword, c, hc, hname⟩ := h
  obtain ⟨cs, hcs⟩ := List.head?_eq_some_iff.1 hc
  have hnext : s.token.closes = true → c.isDigit = false := fun hcloses => by
    rw [Follows, if_pos hcloses] at hf
    exact (Slice.head_of_continues hcs hf).1
  have hident : .ident ∈ Rule.all := by simp [Rule.all]
  -- the longest match has the word and the character at its start, so that it is a name
  obtain ⟨rule, hmem, more, rest', happ, hmatch, hlongest⟩ :=
    exists_longest (cs ++ rest) hident (.ident (isWord_concat hword hname)) (by simp)
  rw [List.append_assoc, List.singleton_append] at hmatch
  obtain rfl := hmatch.eq_ident hmem hs hword hname hnext
  rw [happ, ← List.append_assoc] at hlongest
  refine ⟨.ofLongest hlongest rfl, rest', rfl, ?_, hlongest⟩
  change _ = s.text ++ [c] ++ more ++ rest'
  rw [hcs, List.append_assoc _ more, ← happ]
  simp

/-- Blanks go on nothing that is read. -/
lemma not_joins_of_isGap {text : List Char} (h : isGap c = true) : ¬Joins text c := by
  simp only [isGap, Bool.or_eq_true, beq_iff_eq] at h
  intro hj
  cases hj with
  | word _ hc => obtain ((rfl | rfl) | rfl) | rfl := h <;> cases hc
  | digits _ hc => obtain ((rfl | rfl) | rfl) | rfl := h <;> simp at hc
  | percent => obtain ((h | h) | h) | h := h <;> cases h
  | sign _ hc => obtain ((rfl | rfl) | rfl) | rfl := h <;> simp at hc

/-- Whether there is a gap before the next slice, or the two do not become one word. -/
def Placed.Apart (p q : Placed) : Prop :=
  p.after.text ++ q.before.text = [] → meet p.slice.text q.slice.text = false

section Rows

variable {offset : Nat} {p : Placed} {ps : List Placed} {last : Gap} {ls : List Located}

/-- What comes after a slice is a blank, or the next slice. -/
lemma Placed.head_cases (h : c ∈ (p.after.text ++ (ps.flatMap text ++ last.text)).head?) :
    isGap c = true ∨
      ∃ q ∈ ps.head?, p.after.text ++ q.before.text = [] ∧ c ∈ q.slice.text.head? := by
  have gaps (gap : Gap) (more : List Char) (h : c ∈ (gap.text ++ more).head?) :
      isGap c = true ∨ gap.text = [] ∧ c ∈ more.head? := by
    cases e : gap.text with
    | nil => exact .inr ⟨rfl, by simpa [e] using h⟩
    | cons d ds =>
      rw [e] at h
      obtain rfl : d = c := by simpa using h
      exact .inl (gap.isGap d (e ▸ List.mem_cons_self))
  obtain h | ⟨hafter, h⟩ := gaps p.after _ h
  · exact .inl h
  cases ps with
  | nil => exact .inl (last.isGap c (List.mem_of_mem_head? h))
  | cons q ps =>
    rw [List.flatMap_cons, Placed.text, List.append_assoc, List.append_assoc] at h
    obtain h | ⟨hbefore, h⟩ := gaps q.before _ h
    · exact .inl h
    obtain ⟨d, ds, hds, -⟩ := q.slice.exists_cons
    rw [hds] at h
    exact .inr ⟨q, rfl, by rw [hafter, hbefore]; rfl, by rw [hds]; exact h⟩

/-- A slice that is apart from the next one is scanned as where it stands alone. -/
lemma scanFrom_cons_placed (offset : Nat) (last : Gap) (hs : ∀ name, p.slice.token ≠ .ident name)
    (h : ∀ q ∈ ps.head?, Follows p.slice.token q.slice.token ∧ p.Apart q) :
    ∃ start stop offset', scanFrom offset 0 ((p :: ps).flatMap Placed.text ++ last.text) =
      (scanFrom offset' 0 (ps.flatMap Placed.text ++ last.text)).map
        (⟨p.slice.token, start, stop⟩ :: ·) := by
  have sealed : ∀ c ∈ (p.after.text ++ (ps.flatMap Placed.text ++ last.text)).head?,
      ¬Joins p.slice.text c := by
    intro c hc hjoins
    obtain hgap | ⟨q, hq, hempty, hhead⟩ := Placed.head_cases hc
    · exact not_joins_of_isGap hgap hjoins
    · have hmeet := meet_of_joins (h q hq).1 hs hhead hjoins
      rw [(h q hq).2 hempty] at hmeet
      cases hmeet
  rw [List.flatMap_cons, Placed.text, List.append_assoc, List.append_assoc, List.append_assoc,
    scanFrom_gap_append, scanFrom_slice sealed, scanFrom_gap_append]
  exact ⟨_, _, _, rfl⟩

/-- Slices that are apart are scanned as where they stand alone. -/
lemma scanFrom_placed (offset : Nat) (last : Gap)
    (hs : ∀ p ∈ ps, ∀ name, p.slice.token ≠ .ident name)
    (hf : ps.IsChain fun p q => Follows p.slice.token q.slice.token)
    (ha : ps.IsChain Placed.Apart) :
    ∃ ls, scanFrom offset 0 (ps.flatMap Placed.text ++ last.text) = .ok ls ∧
      ls.map (·.token) = ps.map (·.slice.token) := by
  induction ps generalizing offset with
  | nil =>
    have h : scanFrom offset 0 (last.text ++ []) = .ok [] := scanFrom_gap_append last
    rw [List.append_nil] at h
    exact ⟨[], h, rfl⟩
  | cons p ps ih =>
    rw [List.forall_mem_cons] at hs
    rw [List.isChain_cons] at hf ha
    obtain ⟨start, stop, offset', hscan⟩ := scanFrom_cons_placed offset last
      hs.1 fun q hq => ⟨hf.1 q hq, ha.1 q hq⟩
    obtain ⟨ls, hls, htokens⟩ := ih offset' hs.2 hf.2 ha.2
    rw [hscan, hls]
    exact ⟨_, rfl, congrArg (_ :: ·) htokens⟩

/-- Where slices are not apart, a name is scanned. -/
lemma exists_ident_of_not_apart (hs : ∀ p ∈ ps, ∀ name, p.slice.token ≠ .ident name)
    (hf : ps.IsChain fun p q => Follows p.slice.token q.slice.token) (ha : ¬ps.IsChain Placed.Apart)
    (h : scanFrom offset 0 (ps.flatMap Placed.text ++ last.text) = .ok ls) :
    ∃ name, .ident name ∈ ls.map (·.token) := by
  induction ps generalizing offset ls with
  | nil => exact (ha .nil).elim
  | cons p ps ih =>
    rw [List.forall_mem_cons] at hs
    rw [List.isChain_cons] at hf ha
    by_cases hnext : ∀ q ∈ ps.head?, p.Apart q
    · obtain ⟨start, stop, offset', hscan⟩ := scanFrom_cons_placed offset last
        hs.1 fun q hq => ⟨hf.1 q hq, hnext q hq⟩
      rw [hscan] at h
      obtain ⟨ls', hrest, rfl⟩ := exists_of_map_cons h
      obtain ⟨name, hname⟩ := ih hs.2 hf.2 (fun hchain => ha ⟨hnext, hchain⟩) hrest
      exact ⟨name, List.mem_cons_of_mem _ hname⟩
    · -- the slice and the next one meet: both are scanned as one name
      simp only [Placed.Apart, not_forall, Bool.not_eq_false] at hnext
      obtain ⟨q, hq, hempty, hmeet⟩ := hnext
      obtain ⟨ps, rfl⟩ := List.head?_eq_some_iff.1 hq
      rw [List.append_eq_nil_iff] at hempty
      obtain ⟨name, more, htoken, happ, hlongest⟩ :=
        exists_name (q.after.text ++ (ps.flatMap Placed.text ++ last.text)) (hf.1 q hq) hs.1 hmeet
      have htext : (p :: q :: ps).flatMap Placed.text ++ last.text =
          p.before.text ++ (name.text ++ more) := by
        simp [← happ, Placed.text, hempty.1, hempty.2]
      rw [htext, scanFrom_gap_append, scanFrom_longest hlongest] at h
      obtain ⟨ls', -, rfl⟩ := exists_of_map_cons h
      rw [htoken]
      exact ⟨_, List.mem_cons_self⟩

/-- In a text that is scanned, slices that follow each other are apart, but for names. -/
lemma Cut.isChain_apart {cs : List Char} (h : Cut offset cs ps ls)
    (hf : ps.IsChain fun p q => Follows p.slice.token q.slice.token) :
    ps.IsChain fun p q => (∀ name, p.slice.token ≠ .ident name) → p.Apart q := by
  induction h with
  | gap => exact .nil
  | @slice offset rest ps ls s before hlongest cut ih =>
    rw [List.isChain_cons] at hf ⊢
    refine ⟨fun q hq hs hempty => Bool.eq_false_iff.2 fun hmeet => ?_, ih hf.2⟩
    cases cut with
    | gap => cases hq
    | @slice _ rest _ _ s' between =>
      cases hq
      have hbetween : between.text = [] := hempty
      obtain ⟨name, more, htoken, happ, hname⟩ := exists_name rest (hf.1 _ rfl) hs hmeet
      rw [hbetween, List.nil_append, happ, hname] at hlongest
      obtain ⟨hrule, hlength⟩ := Prod.mk.inj (Option.some.inj hlongest)
      obtain ⟨htext, -⟩ := List.append_inj happ hlength.symm
      refine hs (.ofList name.text) (Option.some.inj ?_)
      rw [← htoken, ← s.reads, ← name.reads, hrule, htext]

end Rows

end Gamebook.Token
