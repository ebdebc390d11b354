import Gamebook.Proofs.LongestMatch
import Gamebook.Text.Blank

/-!
# How texts are scanned

A text that is scanned consists of gaps and of slices, each of which is a token where it stands
alone. So slices that are put together in another way are scanned into the same tokens, provided
that no slice takes in the character after it. Main definitions: `Token.Slice`, `Token.Placed`,
`Token.Cut`, `Token.Located.slice`. Main statements: `Token.exists_cut`, `Token.scanFrom_slice`.
-/

namespace Gamebook

namespace Text

/-- The characters of a text whose bytes lie between two offsets, where the text starts at one. -/
def charsBetween (start stop : Nat) : (offset : Nat) → List Char → List Char
  | _, [] => []
  | offset, c :: cs =>
    let rest := charsBetween start stop (offset + charSize c) cs
    if start ≤ offset ∧ offset < stop then c :: rest else rest

variable {start stop offset : Nat} {cs ds : List Char}

lemma charSize_pos {c} : 0 < charSize c :=
  c.utf8Size_pos

lemma charsBetween_append :
    charsBetween start stop offset (cs ++ ds) =
      charsBetween start stop offset cs ++ charsBetween start stop (offset + byteSize cs) ds := by
  induction cs generalizing offset with
  | nil => rfl
  | cons c cs ih =>
    simp only [List.cons_append, charsBetween, ih, byteSize, Nat.add_assoc]
    split <;> rfl

lemma charsBetween_before (h : offset + byteSize cs ≤ start) :
    charsBetween start stop offset cs = [] := by
  induction cs generalizing offset with
  | nil => rfl
  | cons c cs ih =>
    have hc := @charSize_pos c
    rw [byteSize] at h
    rw [charsBetween, if_neg (by omega)]
    exact ih (by omega)

lemma charsBetween_after (h : stop ≤ offset) : charsBetween start stop offset cs = [] := by
  induction cs generalizing offset with
  | nil => rfl
  | cons c cs ih =>
    rw [charsBetween, if_neg (by omega)]
    exact ih (by omega)

lemma charsBetween_inside (hstart : start ≤ offset) (hstop : offset + byteSize cs ≤ stop) :
    charsBetween start stop offset cs = cs := by
  induction cs generalizing offset with
  | nil => rfl
  | cons c cs ih =>
    have hc := @charSize_pos c
    rw [byteSize] at hstop
    rw [charsBetween, if_pos (by omega), ih (by omega) (by omega)]

/-- A part of a text lies between the offsets of its ends. -/
lemma charsBetween_part (before cs ds : List Char) :
    charsBetween (byteSize before) (byteSize before + byteSize cs) 0 (before ++ (cs ++ ds)) =
      cs := by
  rw [charsBetween_append, charsBetween_append, charsBetween_before (by omega), Nat.zero_add,
    charsBetween_inside (Nat.le_refl _) (Nat.le_refl _), charsBetween_after (Nat.le_refl _),
    List.append_nil, List.nil_append]

end Text

namespace Token

/-- The part of a text that a token takes up. -/
def Located.slice (l : Located) (text : String) : List Char :=
  Text.charsBetween l.start l.stop 0 text.toList

/-- Whether a character is visible and in the ASCII range, as those of tokens are. -/
def isVisible (c : Char) : Bool :=
  33 ≤ c.toNat && c.toNat ≤ 126

lemma not_isBlank_of_isVisible {c} (h : isVisible c = true) : Text.isBlank c = false := by
  have hval : c.toNat = c.val.toNat := rfl
  simp only [isVisible, Bool.and_eq_true, decide_eq_true_eq, hval] at h
  simp only [Text.isBlank, Bool.or_eq_false_iff, Bool.and_eq_false_iff, decide_eq_false_iff_not,
    UInt32.le_iff_toNat_le, beq_eq_false_iff_ne, ne_eq, ← UInt32.toNat_inj, UInt32.reduceToNat]
  omega

lemma isBlank_of_isGap {c} (h : isGap c = true) : Text.isBlank c = true := by
  simp only [isGap, Bool.or_eq_true, beq_iff_eq] at h
  obtain ((rfl | rfl) | rfl) | rfl := h <;> rfl

lemma isVisible_of_isNameChar {c} (h : isNameChar c = true) : isVisible c = true := by
  simp only [isVisible, Bool.and_eq_true, decide_eq_true_eq]
  obtain h | h := isNameChar_cases h
  · have hletter := toNat_of_isNameStart h
    omega
  · have hdigit := toNat_of_isDigit h
    omega

/-- A character of what a rule matches may stand in a name or number, unless the rule is a text. -/
lemma Rule.Matches.mem_cases {rule : Rule} {cs c} (h : rule.Matches cs) (hc : c ∈ cs) :
    isNameChar c = true ∨ c ∈ ['.', '%'] ∨
      ∃ text token, rule = .fixed text token ∧ cs = text.toList := by
  have digits {ds : List Char} (h : ∀ c ∈ ds, c.isDigit = true) (hc : c ∈ ds) :
      isNameChar c = true :=
    isNameChar_of_isDigit (h c hc)
  cases h with
  | percent hcount =>
    obtain hc | hc := List.mem_append.1 hc
    · exact .inl (digits hcount hc)
    · obtain rfl | rfl : c = 'd' ∨ c = '%' := by simpa using hc
      · exact .inl rfl
      · exact .inr (.inl (by decide))
  | sides hcount hsides =>
    rw [List.mem_append, List.mem_cons] at hc
    obtain hc | rfl | hc := hc
    · exact .inl (digits hcount hc)
    · exact .inl rfl
    · exact .inl (digits hsides.2 hc)
  | whole hdigits => exact .inl (digits hdigits.2 hc)
  | fraction hdigits hplaces =>
    rw [List.mem_append, List.mem_cons] at hc
    obtain hc | rfl | hc := hc
    · exact .inl (digits hdigits.2 hc)
    · exact .inr (.inl (by decide))
    · exact .inl (digits hplaces.2 hc)
  | fixed => exact .inr (.inr ⟨_, _, rfl, rfl⟩)
  | ident h =>
    cases cs with
    | nil => cases hc
    | cons d cs =>
      rw [isWord, Bool.and_eq_true, List.all_eq_true] at h
      obtain rfl | hc := List.mem_cons.1 hc
      · exact .inl (isNameChar_of_isNameStart h.1)
      · exact .inl (h.2 c hc)

/-- A text that is a token where it stands alone. -/
structure Slice where
  /-- The text. -/
  text : List Char
  /-- The token. -/
  token : Token
  /-- The rule that makes it one. -/
  rule : Rule
  /-- The rule has the longest match, which is the whole text. -/
  longest : longest? text Rule.all = some (rule, text.length)
  /-- The token is the one of the rule. -/
  reads : rule.token? text = some token

namespace Slice

variable (s : Slice) {rest : List Char} {offset : Nat}

lemma mem_all : s.rule ∈ Rule.all :=
  (longest?_some s.longest).1

lemma ne_nil : s.text ≠ [] :=
  List.length_pos_iff.1 (longest?_some s.longest).2.2.1

lemma matches_text : s.rule.Matches s.text := by
  obtain ⟨found, after, happ, hmatch, hlength⟩ := exists_slice_of_longest? s.longest
  rwa [List.IsPrefix.eq_of_length ⟨after, happ.symm⟩ hlength] at hmatch

/-- What is true of the characters of names, numbers and fixed texts is true of slices. -/
lemma forall_mem {p : Char → Bool} (hname : ∀ c, isNameChar c = true → p c = true)
    (hnumber : ['.', '%'].all p = true)
    (hfixed : Rule.fixedAll (fun text _ => text.toList.all p) = true) :
    ∀ c ∈ s.text, p c = true := by
  intro c hc
  have hmem := s.mem_all
  obtain h | h | ⟨text, token, hrule, htext⟩ := s.matches_text.mem_cases hc
  · exact hname c h
  · exact List.all_eq_true.1 hnumber c h
  · rw [hrule] at hmem
    exact List.all_eq_true.1 (Rule.of_fixedAll hfixed hmem) c (htext ▸ hc)

/-- A slice has no blanks. -/
lemma not_isBlank : ∀ c ∈ s.text, Text.isBlank c = false := fun c hc =>
  not_isBlank_of_isVisible
    (s.forall_mem (fun _ => isVisible_of_isNameChar) (by decide) (by decide) c hc)

/-- A slice does not start with a gap. -/
lemma exists_cons : ∃ c cs, s.text = c :: cs ∧ isGap c = false := by
  obtain ⟨c, cs, hcs⟩ := List.exists_cons_of_ne_nil s.ne_nil
  refine ⟨c, cs, hcs, Bool.eq_false_iff.2 fun hgap => ?_⟩
  have hblank := s.not_isBlank c (hcs ▸ List.mem_cons_self)
  rw [isBlank_of_isGap hgap] at hblank
  cases hblank

/-- The longest match at the start of a slice and what follows it is the slice, if it is sealed. -/
lemma longest_append (h : ∀ c ∈ rest.head?, ¬Joins s.text c) :
    longest? (s.text ++ rest) Rule.all = some (s.rule, s.text.length) := by
  have alone : longest? (s.text ++ []) Rule.all = some (s.rule, s.text.length) := by
    rw [List.append_nil]
    exact s.longest
  exact longest?_sealed alone h

/-- What has the longest match in a text is a slice. -/
def ofLongest {text : List Char} {rule token}
    (h : longest? (text ++ rest) Rule.all = some (rule, text.length))
    (ht : rule.token? text = some token) : Slice where
  text := text
  token := token
  rule := rule
  longest := by
    have alone : longest? (text ++ []) Rule.all = some (rule, text.length) :=
      longest?_sealed h (by rintro _ ⟨⟩)
    rwa [List.append_nil] at alone
  reads := ht

end Slice

/-- A text that may stand between tokens. -/
structure Gap where
  /-- The text. -/
  text : List Char
  /-- The text consists of blanks that may stand between tokens. -/
  isGap : ∀ c ∈ text, isGap c = true

namespace Gap

/-- No gap. -/
def none : Gap where
  text := []
  isGap := List.forall_mem_nil _

/-- A gap with one more blank at its start. -/
def cons {c : Char} (gap : Gap) (h : Token.isGap c = true) : Gap where
  text := c :: gap.text
  isGap := List.forall_mem_cons.2 ⟨h, gap.isGap⟩

lemma not_mem {c : Char} (gap : Gap) (h : Token.isGap c = false) : c ∉ gap.text := by
  intro hc
  rw [gap.isGap c hc] at h
  cases h

end Gap

/-- A slice between gaps. -/
structure Placed where
  /-- The gap before the slice. -/
  before : Gap
  /-- The slice. -/
  slice : Slice
  /-- The gap after the slice. -/
  after : Gap

/-- The slice with its gaps. -/
def Placed.text (p : Placed) : List Char :=
  p.before.text ++ (p.slice.text ++ p.after.text)

section Scan

variable {offset taken : Nat} {c : Char} {cs rest : List Char} {ls : List Located}

lemma scanFrom_succ :
    scanFrom offset (taken + 1) (c :: cs) = scanFrom (offset + Text.charSize c) taken cs :=
  rfl

-- the rules are not to be tried out on a text that is not known
attribute [local irreducible] longest? in
lemma scanFrom_zero :
    scanFrom offset 0 (c :: cs) =
      if isGap c then scanFrom (offset + Text.charSize c) 0 cs
      else
        match longest? (c :: cs) Rule.all with
        | none => .error ⟨.ofList [c], offset⟩
        | some (rule, n) =>
          match rule.token? ((c :: cs).take n) with
          | none => .error ⟨.ofList ((c :: cs).take n), offset⟩
          | some token =>
            (scanFrom (offset + Text.charSize c) (n - 1) cs).map
              (⟨token, offset, offset + Text.byteSize ((c :: cs).take n)⟩ :: ·) :=
  rfl

/-- The characters of a token that has been read are passed over. -/
lemma scanFrom_append {before : List Char} :
    scanFrom offset before.length (before ++ rest) =
      scanFrom (offset + Text.byteSize before) 0 rest := by
  induction before generalizing offset with
  | nil => rfl
  | cons c before ih =>
    rw [List.cons_append, List.length_cons, scanFrom_succ, ih, Text.byteSize, Nat.add_assoc]

lemma scanFrom_gap (h : isGap c = true) :
    scanFrom offset 0 (c :: cs) = scanFrom (offset + Text.charSize c) 0 cs := by
  rw [scanFrom_zero, if_pos h]

/-- A slice is scanned where the longest match is the slice. -/
lemma scanFrom_longest {s : Slice}
    (h : longest? (s.text ++ rest) Rule.all = some (s.rule, s.text.length)) :
    scanFrom offset 0 (s.text ++ rest) =
      (scanFrom (offset + Text.byteSize s.text) 0 rest).map
        (⟨s.token, offset, offset + Text.byteSize s.text⟩ :: ·) := by
  obtain ⟨c, cs, hcs, hgap⟩ := s.exists_cons
  have htake : (s.text ++ rest).take s.text.length = s.text := List.take_left
  have hreads := s.reads
  rw [hcs] at h htake hreads ⊢
  rw [List.cons_append] at h htake ⊢
  rw [scanFrom_zero, if_neg (Bool.eq_false_iff.1 hgap), h]
  simp only [htake, hreads]
  rw [List.length_cons, Nat.add_sub_cancel, scanFrom_append, Text.byteSize, Nat.add_assoc]

/-- A slice is scanned where it does not take in the character after it. -/
lemma scanFrom_slice {s : Slice} (h : ∀ c ∈ rest.head?, ¬Joins s.text c) :
    scanFrom offset 0 (s.text ++ rest) =
      (scanFrom (offset + Text.byteSize s.text) 0 rest).map
        (⟨s.token, offset, offset + Text.byteSize s.text⟩ :: ·) :=
  scanFrom_longest (s.longest_append h)

/-- Gaps are passed over. -/
lemma scanFrom_gap_append (gap : Gap) :
    scanFrom offset 0 (gap.text ++ rest) = scanFrom (offset + Text.byteSize gap.text) 0 rest := by
  obtain ⟨cs, hgap⟩ := gap
  induction cs generalizing offset with
  | nil => rfl
  | cons c cs ih =>
    rw [List.forall_mem_cons] at hgap
    rw [List.cons_append, scanFrom_gap hgap.1, ih hgap.2, Text.byteSize, Nat.add_assoc]

/-- A text from an offset on as slices and gaps, with the tokens that are scanned there. -/
inductive Cut : Nat → List Char → List Placed → List Located → Prop where
  | gap {offset : Nat} (gap : Gap) : Cut offset gap.text [] []
  | slice {offset : Nat} {rest ps ls} {s : Slice} (before : Gap) :
    longest? (s.text ++ rest) Rule.all = some (s.rule, s.text.length) →
    Cut (offset + Text.byteSize before.text + Text.byteSize s.text) rest ps ls →
    Cut offset (before.text ++ (s.text ++ rest)) (⟨before, s, .none⟩ :: ps)
      (⟨s.token, offset + Text.byteSize before.text,
        offset + Text.byteSize before.text + Text.byteSize s.text⟩ :: ls)

/-- A token is put in front of what is scanned after it. -/
lemma exists_of_map_cons {α : Type} {scanned : Except α (List Located)} {l : Located}
    (h : scanned.map (l :: ·) = .ok ls) : ∃ ls', scanned = .ok ls' ∧ ls = l :: ls' := by
  cases scanned with
  | error fault => cases h
  | ok ls' =>
    cases h
    exact ⟨ls', rfl, rfl⟩

/-- What is scanned where no gap is starts with a slice. -/
lemma scanFrom_cases (h : scanFrom offset 0 (c :: cs) = .ok ls) (hgap : isGap c = false) :
    ∃ (s : Slice) (rest : List Char) (ls' : List Located), c :: cs = s.text ++ rest ∧
      longest? (s.text ++ rest) Rule.all = some (s.rule, s.text.length) ∧
      scanFrom (offset + Text.byteSize s.text) 0 rest = .ok ls' ∧
      ls = ⟨s.token, offset, offset + Text.byteSize s.text⟩ :: ls' := by
  have hscan := h
  rw [scanFrom_zero, if_neg (Bool.eq_false_iff.1 hgap)] at h
  -- only a longest match that is a token leaves anything to scan
  cases hlongest : longest? (c :: cs) Rule.all with
  | none =>
    rw [hlongest] at h
    cases h
  | some found =>
    obtain ⟨rule, n⟩ := found
    rw [hlongest] at h
    simp only at h
    cases htoken : rule.token? ((c :: cs).take n) with
    | none =>
      rw [htoken] at h
      cases h
    | some token =>
      obtain ⟨text, rest, happ, -, hlength⟩ := exists_slice_of_longest? hlongest
      rw [happ, ← hlength, List.take_left] at htoken
      rw [happ, ← hlength] at hlongest
      obtain ⟨s, rfl, rfl, rfl⟩ : ∃ s : Slice, s.text = text ∧ s.rule = rule ∧ s.token = token :=
        ⟨.ofLongest hlongest htoken, rfl, rfl, rfl⟩
      rw [happ, scanFrom_longest hlongest] at hscan
      obtain ⟨ls', htail, rfl⟩ := exists_of_map_cons hscan
      exact ⟨s, rest, ls', happ, hlongest, htail, rfl⟩

/-- A gap before a text that is cut belongs to the first slice, or is all there is. -/
lemma Cut.exists_gap {ps : List Placed} (hgap : isGap c = true)
    (h : Cut (offset + Text.charSize c) cs ps ls) : ∃ ps, Cut offset (c :: cs) ps ls := by
  cases h with
  | gap gap => exact ⟨[], .gap (gap.cons hgap)⟩
  | slice before hlongest cut =>
    rw [Nat.add_assoc offset] at cut ⊢
    exact ⟨_, .slice (before.cons hgap) hlongest cut⟩

/-- A text that is scanned is cut into gaps and slices. -/
lemma exists_cut {offset : Nat} {cs : List Char} {ls : List Located}
    (h : scanFrom offset 0 cs = .ok ls) : ∃ ps, Cut offset cs ps ls := by
  match cs with
  | [] =>
    cases h
    exact ⟨[], .gap .none⟩
  | c :: cs =>
    by_cases hgap : isGap c = true
    · rw [scanFrom_gap hgap] at h
      obtain ⟨ps, cut⟩ := exists_cut h
      exact cut.exists_gap hgap
    · obtain ⟨s, rest, ls', happ, hlongest, hrest, rfl⟩ :=
        scanFrom_cases h (Bool.eq_false_iff.2 hgap)
      have hshorter : rest.length < (c :: cs).length := by
        have hpos := List.length_pos_iff.2 s.ne_nil
        rw [happ, List.length_append]
        omega
      obtain ⟨ps, cut⟩ := exists_cut hrest
      rw [happ]
      exact ⟨_, .slice .none hlongest cut⟩
termination_by cs.length
decreasing_by
  · exact Nat.lt_succ_self _
  · exact hshorter

namespace Cut

variable {ps : List Placed}

/-- The tokens that are scanned are those of the slices. -/
lemma token_eq (h : Cut offset cs ps ls) : ls.map (·.token) = ps.map (·.slice.token) := by
  induction h with
  | gap => rfl
  | slice _ _ _ ih => exact congrArg (_ :: ·) ih

/-- The slices are the parts of the text that the tokens take up. -/
lemma slice_eq {text : String} (start : List Char)
    (h : Cut (Text.byteSize start) cs ps ls) (htext : text.toList = start ++ cs) :
    ls.map (·.slice text) = ps.map (·.slice.text) := by
  generalize ho : Text.byteSize start = offset at h
  induction h generalizing start with
  | gap => rfl
  | @slice offset rest ps ls s before _ _ ih =>
    subst ho
    rw [← List.append_assoc] at htext
    rw [← Text.byteSize_append] at ih ⊢
    have hrest : text.toList = start ++ before.text ++ s.text ++ rest := by
      rw [htext, List.append_assoc _ s.text]
    rw [List.map_cons, List.map_cons, ih _ hrest Text.byteSize_append, Located.slice, htext,
      Text.charsBetween_part]

/-- Without its blanks, a text that is scanned consists of its slices. -/
lemma removeBlanks (h : Cut offset cs ps ls) :
    Text.removeBlanks cs = ps.flatMap (·.slice.text) := by
  have gaps (gap : Gap) : gap.text.filter (!Text.isBlank ·) = [] :=
    List.filter_eq_nil_iff.2 fun c hc => by simp [isBlank_of_isGap (gap.isGap c hc)]
  induction h with
  | gap => exact gaps _
  | @slice offset rest ps ls s before _ _ ih =>
    have hs : s.text.filter (!Text.isBlank ·) = s.text :=
      List.filter_eq_self.2 fun c hc => by rw [s.not_isBlank c hc]; rfl
    rw [Text.removeBlanks, List.filter_append, List.filter_append, gaps, hs, ← Text.removeBlanks,
      ih, List.flatMap_cons, List.nil_append]

end Cut

end Scan

end Token

end Gamebook
