import Gamebook.Proofs.Diceless
import Gamebook.Proofs.Groups
import Gamebook.Proofs.Slices
import Gamebook.Rules.Assignment
import Gamebook.Rules.Decision

/-!
# Expressions without blanks

Conditions and actions take the blanks out of an expression before it is evaluated. It means the
same without them exactly if no word stands before what could go on it: two words become one name,
which has no value. Only the doubled signs for `and` and `or` get blanks again. Main definitions:
`Token.slices`, `Token.WordsApart`. Main statement: `meaning_without_blanks`.
-/

namespace Gamebook

namespace Text

variable {c : Char} {cs rest word : List Char}

/-- A text in front that does not have the doubled character stays as it is. -/
lemma replaceDouble_append (h : c ∉ cs) :
    replaceDouble c word (cs ++ rest) = cs ++ replaceDouble c word rest := by
  induction cs with
  | nil => rfl
  | cons d cs ih =>
    rw [List.mem_cons, not_or] at h
    rw [List.cons_append, List.cons_append, ← ih h.2]
    cases cs ++ rest with
    | nil => rfl
    | cons e more => rw [replaceDouble, if_neg fun hd => h.1 hd.1.symm]

/-- Pieces that are the doubled character, or do not have it, are replaced one by one. -/
lemma replaceDouble_flatMap {α : Type} {pieces : List α} {f : α → List Char}
    (h : ∀ piece ∈ pieces, f piece = [c, c] ∨ c ∉ f piece) :
    replaceDouble c word (pieces.flatMap f) =
      pieces.flatMap fun piece => if f piece = [c, c] then word else f piece := by
  induction pieces with
  | nil => rfl
  | cons piece pieces ih =>
    rw [List.forall_mem_cons] at h
    rw [List.flatMap_cons, List.flatMap_cons, ← ih h.2]
    by_cases hpair : f piece = [c, c]
    · rw [if_pos hpair, hpair, List.cons_append, List.cons_append, List.nil_append, replaceDouble,
        if_pos ⟨rfl, rfl⟩]
    · rw [if_neg hpair, replaceDouble_append (h.1.resolve_left hpair)]

end Text

/-- The leaf that a value is stored as. -/
def Value.leaf : Value → Scalar
  | number x => .number x
  | bool b => .text (toString b)

namespace Token

/-- The parts of a text that its tokens take up. -/
def slices (text : String) : List (List Char) :=
  match scan text with
  | .ok located => located.map (·.slice text)
  | .error _ => []

/-- Whether no part of a text is a word before what starts like the inside of a word. -/
def WordsApart (text : String) : Prop :=
  (slices text).IsChain fun slice next => meet slice next = false

instance (text : String) : Decidable (WordsApart text) :=
  inferInstanceAs (Decidable (List.IsChain _ _))

/-- Whether no slice is a word before a slice that starts like the inside of a word. -/
def NoneMeet (ss : List Slice) : Prop :=
  ss.IsChain fun s s' => meet s.text s'.text = false

end Token

open Token

variable {text : String} {v : Value} {ls : List Located} {ss : List Slice} {e : Expr}

/-- What a text means depends on its tokens only. -/
lemma evaluateText_of_scan (h : scan text = .ok ls)
    (he : Expr.ofTokens (ls.map (·.token)) = .ok e) : evaluateText text = e.evaluate := by
  rw [evaluateText, Expr.read, h]
  simp only [he]

/-- A text that has a value is an expression that has this value. -/
lemma exists_scan_of_evaluateText (h : evaluateText text = .ok v) :
    ∃ ls e, scan text = .ok ls ∧ Expr.ofTokens (ls.map (·.token)) = .ok e ∧ e.evaluate = .ok v := by
  rw [evaluateText, Expr.read] at h
  cases hscan : scan text with
  | error fault =>
    rw [hscan] at h
    cases h
  | ok ls =>
    rw [hscan] at h
    simp only at h
    cases he : Expr.ofTokens (ls.map (·.token)) with
    | error fault =>
      rw [he] at h
      cases h
    | ok e =>
      rw [he] at h
      exact ⟨ls, e, rfl, he, h⟩

/-- An expression that has a value has no names. -/
lemma not_ident_of_evaluate {ts : List Token} (he : Expr.ofTokens ts = .ok e)
    (hv : e.evaluate = .ok v) (name : String) : .ident name ∉ ts := by
  intro hname
  obtain ⟨first, hfirst⟩ := (Expr.ofTokens_eq_ok_iff.1 he).exists_variable hname
  rw [Expr.evaluate, hfirst] at hv
  cases hv

/-- Slices that make up an expression with a value. -/
structure Valued (ss : List Slice) (v : Value) : Prop where
  follows : ss.IsChain fun s s' => Follows s.token s'.token
  not_ident : ∀ s ∈ ss, ∀ name, s.token ≠ .ident name
  evaluates {text : String} {ls : List Located} : scan text = .ok ls →
    ls.map (·.token) = ss.map (·.token) → evaluateText text = .ok v

/-- A text that has a value consists of such slices, blanks aside. -/
lemma exists_valued (h : evaluateText text = .ok v) :
    ∃ ss, Valued ss v ∧ slices text = ss.map (·.text) ∧
      Text.removeBlanks text.toList = ss.flatMap (·.text) := by
  obtain ⟨ls, e, hscan, he, hv⟩ := exists_scan_of_evaluateText h
  obtain ⟨ps, cut⟩ := exists_cut hscan
  have htokens : ls.map (·.token) = (ps.map (·.slice)).map (·.token) := by
    rw [cut.token_eq, List.map_map]
    rfl
  have hslices : ls.map (·.slice text) = ps.map (·.slice.text) := cut.slice_eq [] rfl
  refine ⟨ps.map (·.slice), ⟨?_, ?_, ?_⟩, ?_, ?_⟩
  · have hfollows := Expr.follows_of_ofTokens he
    rwa [htokens, List.isChain_map] at hfollows
  · intro s hs name hname
    refine not_ident_of_evaluate he hv name ?_
    rw [htokens, ← hname]
    exact List.mem_map_of_mem hs
  · intro text ls' hscan' heq
    rw [← htokens] at heq
    rw [evaluateText_of_scan hscan' (heq ▸ he), hv]
  · rw [slices, hscan, List.map_map]
    exact hslices
  · rw [cut.removeBlanks, List.flatMap_map]

/-- How slices are written: with the same tokens, and with blanks only where words are apart. -/
structure Respelling (place : Slice → Placed) : Prop where
  token_eq {s : Slice} : (place s).slice.token = s.token
  apart_iff {s s' : Slice} : (place s).Apart (place s') ↔ meet s.text s'.text = false

/-- Slices with a value have it in another spelling exactly if words are apart. -/
lemma Valued.respelled {place : Slice → Placed} (h : Valued ss v) (hp : Respelling place) :
    (NoneMeet ss →
      evaluateText (.ofList (ss.flatMap fun s => (place s).text)) = .ok v) ∧
    (¬NoneMeet ss →
      ∃ fault, evaluateText (.ofList (ss.flatMap fun s => (place s).text)) = .error fault) := by
  have hs : ∀ p ∈ ss.map place, ∀ name, p.slice.token ≠ .ident name := by
    intro p hmem
    obtain ⟨s, hs, rfl⟩ := List.mem_map.1 hmem
    rw [hp.token_eq]
    exact h.not_ident s hs
  have hf : (ss.map place).IsChain fun p q => Follows p.slice.token q.slice.token := by
    rw [List.isChain_map]
    simp only [hp.token_eq]
    exact h.follows
  have ha : (ss.map place).IsChain Placed.Apart ↔ NoneMeet ss := by
    rw [NoneMeet, List.isChain_map]
    simp only [hp.apart_iff]
  have htext : (String.ofList (ss.flatMap fun s => (place s).text)).toList =
      (ss.map place).flatMap Placed.text ++ Gap.none.text := by
    rw [String.toList_ofList, List.flatMap_map]
    exact (List.append_nil _).symm
  constructor
  · intro happart
    obtain ⟨ls, hscan, htokens⟩ := scanFrom_placed 0 .none hs hf (ha.2 happart)
    rw [← htext] at hscan
    refine h.evaluates hscan ?_
    rw [htokens, List.map_map]
    exact List.map_congr_left fun s _ => hp.token_eq
  · intro happart
    cases hvalue : evaluateText (.ofList (ss.flatMap fun s => (place s).text)) with
    | error fault => exact ⟨fault, rfl⟩
    | ok w =>
      obtain ⟨ls, e, hscan, he, hw⟩ := exists_scan_of_evaluateText hvalue
      rw [scan, htext] at hscan
      obtain ⟨name, hname⟩ := exists_ident_of_not_apart hs hf (mt ha.1 happart) hscan
      exact (not_ident_of_evaluate he hw name hname).elim

namespace Token

/-- A slice without gaps. -/
def Slice.alone (s : Slice) : Placed :=
  ⟨.none, s, .none⟩

lemma respelling_alone : Respelling Slice.alone where
  token_eq := rfl
  apart_iff := ⟨fun h => h rfl, fun h _ => h⟩

/-- A gap of one space. -/
def Gap.space : Gap :=
  Gap.none.cons (c := ' ') rfl

/-- The word for both. -/
def Slice.and : Slice where
  text := "and".toList
  token := .op .and
  rule := .fixed "and" (.op .and)
  longest := rfl
  reads := rfl

/-- The word for at least one. -/
def Slice.or : Slice where
  text := "or".toList
  token := .op .or
  rule := .fixed "or" (.op .or)
  longest := rfl
  reads := rfl

/-- A slice as it stands in the text of a condition: a word between spaces for a doubled sign. -/
def Slice.spelled (s : Slice) : Placed :=
  if s.text = ['&', '&'] then ⟨.space, .and, .space⟩
  else if s.text = ['|', '|'] then ⟨.space, .or, .space⟩
  else s.alone

/-- A slice that starts like no name has the token of the fixed texts that are like it. -/
lemma Slice.token_of_fixed {s : Slice} {c cs t} (h : s.text = c :: cs) (hc : isNameChar c = false)
    (hfixed : Rule.fixedAll (fun text token => text.toList != c :: cs || token == t) = true) :
    s.token = t := by
  obtain ⟨text, hall, htext⟩ := Slice.exists_fixed h (.inl hc)
  have ht := Rule.of_fixedAll hfixed hall
  rw [← htext, bne_self_eq_false, Bool.false_or] at ht
  exact beq_iff_eq.1 ht

lemma respelling_spelled : Respelling Slice.spelled where
  token_eq {s} := by
    rw [Slice.spelled]
    split
    · next h => exact (Slice.token_of_fixed h rfl (by decide)).symm
    · split
      · next h => exact (Slice.token_of_fixed h rfl (by decide)).symm
      · rfl
  apart_iff {s s'} := by
    have spaced {p q : Placed} (h : p.after.text ++ q.before.text ≠ [])
        (hmeet : meet s.text s'.text = false) : p.Apart q ↔ meet s.text s'.text = false :=
      ⟨fun _ => hmeet, fun _ hempty => (h hempty).elim⟩
    have right (h : ¬s'.text.head?.any isNameChar = true) : meet s.text s'.text = false := by
      rw [meet, Bool.eq_false_iff.2 h, Bool.and_false]
    rw [Slice.spelled, Slice.spelled]
    split
    · next h => exact spaced (by simp [Gap.space, Gap.cons]) (by rw [h]; rfl)
    split
    · next h => exact spaced (by simp [Gap.space, Gap.cons]) (by rw [h]; rfl)
    split
    · next h => exact spaced (by simp [Gap.space, Gap.cons]) (right (by rw [h]; decide))
    split
    · next h => exact spaced (by simp [Gap.space, Gap.cons]) (right (by rw [h]; decide))
    · exact respelling_alone.apart_iff

namespace Slice

variable {s s' : Slice} {c : Char}

/-- A sign that stands in fixed texts only when it is doubled. -/
lemma eq_pair_or_not_mem (hname : isNameChar c = false) (hnumber : c ∉ ['.', '%'])
    (hfixed : Rule.fixedAll (fun text _ => text.toList == [c, c] || c ∉ text.toList) = true) :
    s.text = [c, c] ∨ c ∉ s.text := by
  by_cases hc : c ∈ s.text
  · obtain ⟨text, token, hall, htext⟩ := exists_fixed_of_mem hc hname hnumber
    have hpair := Rule.of_fixedAll hfixed hall
    rwa [← htext, Bool.or_eq_true, beq_iff_eq, decide_eq_true_eq] at hpair
  · exact .inr hc

/-- The slices in the text of a condition. -/
lemma flatMap_spelled : Text.replaceDouble '|' " or ".toList
    (Text.replaceDouble '&' " and ".toList (ss.flatMap (·.text))) =
      ss.flatMap fun s => s.spelled.text := by
  have hand {s : Slice} : s.text = ['&', '&'] ∨ '&' ∉ s.text :=
    eq_pair_or_not_mem rfl (by decide) (by decide)
  have hor {s : Slice} : s.text = ['|', '|'] ∨ '|' ∉ s.text :=
    eq_pair_or_not_mem rfl (by decide) (by decide)
  rw [Text.replaceDouble_flatMap fun s _ => hand, Text.replaceDouble_flatMap fun s _ => ?_]
  · congr 1
    funext s
    rw [spelled]
    by_cases hs : s.text = ['&', '&']
    · rw [if_pos hs, if_pos hs]
      rfl
    · rw [if_neg hs, if_neg hs]
      split
      · rfl
      · exact (List.append_nil _).symm
  · split
    · exact .inr (by decide)
    · exact hor

/-- A word that is no name has a letter that numbers are not displayed with. -/
lemma exists_not_displayed (hs : ∀ name, s.token ≠ .ident name) (hword : isWord s.text = true) :
    ∃ c ∈ s.text, ¬Number.Displayed c := by
  have hnone {c : Char} (h : c = 'd' ∨ c = 'o' ∨ c = 's' ∨ c = 't') : ¬Number.Displayed c := by
    unfold Number.Displayed
    obtain rfl | rfl | rfl | rfl := h <;> decide
  obtain ⟨cs, hcs⟩ | ⟨text, hall, htext⟩ := word_cases hs hword
  · exact ⟨'d', hcs ▸ List.mem_cons_self, hnone (.inl rfl)⟩
  · have hletters := Rule.of_fixedAll (p := fun text _ =>
      !isWord text.toList || text.toList.any (· ∈ ['d', 'o', 's', 't'])) (by decide) hall
    rw [← htext, hword, Bool.not_true, Bool.false_or, List.any_eq_true] at hletters
    obtain ⟨c, hc, hletter⟩ := hletters
    exact ⟨c, hc, hnone (by simpa using hletter)⟩

/-- Words next to each other are a word operator and what is before or after it. -/
lemma operator_of_meet (hf : Follows s.token s'.token) (hs : ∀ name, s.token ≠ .ident name)
    (h : meet s.text s'.text = true) :
    ∃ word ∈ ["and", "or", "not"], s.text = word.toList ∨ s'.text = word.toList := by
  rw [meet, Bool.and_eq_true] at h
  by_cases hcloses : s.token.closes = true
  · rw [Follows, if_pos hcloses] at hf
    obtain ⟨c, cs, hcs, -⟩ := s'.exists_cons
    obtain ⟨text, hall, htext⟩ := exists_fixed hcs (.inr (.inr hf))
    have hwords := Rule.of_fixedAll (p := fun text token => !token.continues ||
      !text.toList.head?.any isNameChar || text ∈ ["and", "or", "not"]) (by decide) hall
    rw [hf, ← htext, ← hcs, h.2] at hwords
    exact ⟨text, of_decide_eq_true hwords, .inr (hcs.trans htext)⟩
  · obtain ⟨cs, hcs⟩ | ⟨text, hall, htext⟩ := word_cases hs h.1
    · exact (hcloses (closes_of_d hcs)).elim
    · have hwords := Rule.of_fixedAll (p := fun text token => token.closes ||
        !isWord text.toList || text ∈ ["and", "or", "not"]) (by decide) hall
      rw [Bool.eq_false_iff.2 hcloses, ← htext, h.1] at hwords
      exact ⟨text, of_decide_eq_true hwords, .inl htext⟩

end Slice

end Token

/-- A text with a character that numbers are not displayed with is no number as a leaf. -/
lemma Scalar.coerce_of_not_displayed {c} (hc : c ∈ text.toList) (h : ¬Number.Displayed c) :
    Scalar.coerce text = .text text := by
  rw [Scalar.coerce]
  split
  · split
    · next x _ hx =>
      rw [Bool.and_eq_true, decide_eq_true_eq] at hx
      exact (h (Number.mem_display (hx.2 ▸ hc))).elim
    · rfl
  · rfl

section Meaning

variable {c : Char}

/-- What stands in no slice does not stand in the text, unless it is a blank. -/
lemma not_mem_of_removeBlanks (h : Text.removeBlanks text.toList = ss.flatMap (·.text))
    (hblank : Text.isBlank c = false) (hc : ∀ s ∈ ss, c ∉ s.text) : c ∉ text.toList := by
  intro hmem
  have hkept : c ∈ Text.removeBlanks text.toList := List.mem_filter.2 ⟨hmem, by rw [hblank]; rfl⟩
  rw [h, List.mem_flatMap] at hkept
  obtain ⟨s, hs, hcs⟩ := hkept
  exact hc s hs hcs

/-- A text in which words meet is kept as it is. -/
lemma coerce_of_meet (hv : Valued ss v) (h : Text.removeBlanks text.toList = ss.flatMap (·.text))
    (hmeet : ¬NoneMeet ss) :
    Scalar.coerce text = .text text := by
  have hword : ∃ s ∈ ss, isWord s.text = true := by
    by_contra hnone
    refine hmeet (List.pairwise_of_forall_mem_list fun s hs s' _ => ?_).isChain
    rw [meet, Bool.eq_false_iff.2 fun hw => hnone ⟨s, hs, hw⟩, Bool.false_and]
  obtain ⟨s, hs, hw⟩ := hword
  obtain ⟨c, hc, hletter⟩ := Slice.exists_not_displayed (hv.not_ident s hs) hw
  refine Scalar.coerce_of_not_displayed (c := c) ?_ hletter
  have hkept : c ∈ Text.removeBlanks text.toList := by
    rw [h]
    exact List.mem_flatMap_of_mem hs hc
  exact (List.mem_filter.1 hkept).1

/-- A condition with a value is decided by it, if its words are apart, and else does not hold. -/
lemma decideCondition_valued (sheet : Sheet) (g : Generator) (hv : Valued ss v)
    (hopen : Diceless text) (hbrace : '}' ∉ text.toList)
    (h : Text.removeBlanks text.toList = ss.flatMap (·.text)) :
    (NoneMeet ss →
      ∃ audit, decideCondition text sheet g = (⟨v.truthy, audit⟩, g)) ∧
    (¬NoneMeet ss →
      ∃ audit, decideCondition text sheet g = (⟨false, audit⟩, g)) := by
  have hfilled : substitute sheet text = text := substitute_of_not_mem hbrace
  have htext : conditionText sheet text = .ofList (ss.flatMap fun s => s.spelled.text) := by
    rw [conditionText, hfilled, h, Slice.flatMap_spelled]
  have hterms := conditionText_diceless (hfilled.symm ▸ hopen)
  obtain ⟨happart, hmeet⟩ := hv.respelled respelling_spelled
  rw [decideCondition, rollTerms_diceless hterms, htext]
  constructor
  · intro hchain
    simp only [happart hchain]
    exact ⟨_, rfl⟩
  · intro hchain
    obtain ⟨fault, hfault⟩ := hmeet hchain
    simp only [hfault]
    exact ⟨_, rfl⟩

/-- A text with a value is assigned as the value, if its words are apart, and else as it is. -/
lemma leafOfText_valued (sheet : Sheet) (hv : Valued ss v) (hbrace : '}' ∉ text.toList)
    (h : Text.removeBlanks text.toList = ss.flatMap (·.text)) :
    (NoneMeet ss → leafOfText sheet text = v.leaf) ∧
    (¬NoneMeet ss → leafOfText sheet text = .text text) := by
  have htext : Text.removeBlanks text.toList = ss.flatMap fun s => s.alone.text := by
    rw [h]
    exact List.flatMap_congr fun s _ => (List.append_nil _).symm
  obtain ⟨happart, hmeet⟩ := hv.respelled respelling_alone
  rw [leafOfText, htext]
  constructor
  · intro hchain
    rw [happart hchain]
    cases v <;> rfl
  · intro hchain
    obtain ⟨fault, hfault⟩ := hmeet hchain
    rw [hfault, substitute_of_not_mem hbrace]
    exact coerce_of_meet hv h hchain

/--
An expression with a value decides a condition as the value does if no words meet when its blanks
are taken out, and is assigned as the value; a condition where words meet does not hold, and the
text is assigned as it is. Without word operators, no words meet.
-/
theorem meaning_without_blanks (h : evaluateText text = .ok v)
    (hraw : ∀ sign ∈ ["+=", "-="], ¬sign.toList <+: text.toList) (path : String) (sheet : Sheet)
    (g : Generator) :
    (∃ audit, decideCondition text sheet g = (⟨v.truthy && WordsApart text, audit⟩, g)) ∧
      assignedValue path (.text text) sheet g =
        (⟨if WordsApart text then v.leaf else .text text, none⟩, g) ∧
      ((∀ word ∈ ["and", "or", "not"], word.toList ∉ slices text) → WordsApart text) := by
  obtain ⟨ss, hv, hslices, hcompact⟩ := exists_valued h
  have hopen : Diceless text := not_mem_of_removeBlanks hcompact rfl
    fun s _ => Slice.not_mem rfl (by decide) (by decide)
  have hbrace : '}' ∉ text.toList := not_mem_of_removeBlanks hcompact rfl
    fun s _ => Slice.not_mem rfl (by decide) (by decide)
  have hapart : WordsApart text ↔ NoneMeet ss := by
    rw [WordsApart, hslices, List.isChain_map, NoneMeet]
  have hraw : assignedText path (.text text) = text := by
    simp only [assignedText]
    split
    · next rest e => exact (hraw "+=" (by decide) ⟨rest, e.symm⟩).elim
    · next rest e => exact (hraw "-=" (by decide) ⟨rest, e.symm⟩).elim
    · rfl
  have hassigned :
      assignedValue path (.text text) sheet g = (⟨leafOfText sheet text, none⟩, g) := by
    rw [assignedValue, hraw, substitute_of_not_mem hbrace, rollTerms_diceless hopen]
  obtain ⟨hholds, hfails⟩ := decideCondition_valued sheet g hv hopen hbrace hcompact
  obtain ⟨hleaf, hkept⟩ := leafOfText_valued sheet hv hbrace hcompact
  refine ⟨?_, ?_, fun hwords => hapart.2 ?_⟩
  · by_cases hchain : WordsApart text
    · rw [decide_eq_true hchain, Bool.and_true]
      exact hholds (hapart.1 hchain)
    · rw [decide_eq_false hchain, Bool.and_false]
      exact hfails (mt hapart.2 hchain)
  · rw [hassigned]
    by_cases hchain : WordsApart text
    · rw [if_pos hchain, hleaf (hapart.1 hchain)]
    · rw [if_neg hchain, hkept (mt hapart.2 hchain)]
  · refine hv.follows.imp_of_mem_imp fun s s' hs hs' hf => Bool.eq_false_iff.2 fun hmeet => ?_
    obtain ⟨word, hword, hoperator⟩ := Slice.operator_of_meet hf (hv.not_ident s hs) hmeet
    refine hwords word hword ?_
    rw [hslices]
    obtain he | he := hoperator
    · exact he ▸ List.mem_map_of_mem hs
    · exact he ▸ List.mem_map_of_mem hs'

/-- With signs for the operators, a condition holds and the value is assigned. -/
theorem meaning_without_blanks_signs :
    let text := "true && !false"
    evaluateText text = .ok (.bool true) ∧ (∀ sign ∈ ["+=", "-="], ¬sign.toList <+: text.toList) ∧
      (∃ audit, decideCondition text .empty (.ofSeed 1) = (⟨true, audit⟩, .ofSeed 1)) ∧
      assignedValue "brave" (.text text) .empty (.ofSeed 1) =
        (⟨.text "true", none⟩, .ofSeed 1) := by
  have hvalue : evaluateText "true && !false" = .ok (.bool true) := by decide
  have hraw : ∀ sign ∈ ["+=", "-="], ¬sign.toList <+: "true && !false".toList := by decide
  obtain ⟨⟨audit, hholds⟩, hassigned, hapart⟩ :=
    meaning_without_blanks hvalue hraw "brave" .empty (.ofSeed 1)
  have hapart := hapart (by decide)
  rw [decide_eq_true hapart] at hholds
  rw [if_pos hapart] at hassigned
  exact ⟨hvalue, hraw, ⟨audit, hholds⟩, hassigned⟩

/-- With words for the operators, an expression loses its meaning without its blanks. -/
theorem meaning_lost_without_blanks :
    ¬∀ (text : String) (v : Value), evaluateText text = .ok v →
        '{' ∉ text.toList → '}' ∉ text.toList → '[' ∉ text.toList → ']' ∉ text.toList →
        (∀ sign ∈ ["+=", "-="], ¬sign.toList <+: text.toList) →
        ∀ (path : String) (sheet : Sheet) (g : Generator),
          (decideCondition text sheet g).1.holds = v.truthy ∧
            (assignedValue path (.text text) sheet g).1.leaf = v.leaf := by
  intro all
  have kept := all "true and true" (.bool true) (by decide) (by decide) (by decide) (by decide)
    (by decide) (by decide) "brave" .empty (.ofSeed 1)
  exact absurd kept (by decide +kernel)

end Meaning

end Gamebook
