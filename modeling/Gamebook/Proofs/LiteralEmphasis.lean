import Gamebook.Proofs.DocumentText
import Gamebook.Proofs.EmphasisText
import Gamebook.Proofs.InlineOrder

/-!
# Emphasis stays in the text

A line of words with signs of emphasis is read as one text, whatever emphasis is found in it. The
text is the line, except that single tildes that are found to strike something out are not written
as they are. Main definitions: `Emphasized`, `strikesIn`, `written`. Main statement:
`lexemesOf_emphasized`.
-/

namespace Gamebook.Markup

/-- The offsets of the single tildes among the parts of a text. -/
def loneTildes (parts : List Inline) : List Nat :=
  parts.filterMap fun
    | .run run span => if run.sign = '~' ∧ run.count = 1 then some span.start else none
    | _ => none

/-- A run adds its offset if it is a single tilde. -/
lemma mem_loneTildes_run {run span parts o} :
    o ∈ loneTildes (.run run span :: parts) ↔
      (run.sign = '~' ∧ run.count = 1) ∧ o = span.start ∨ o ∈ loneTildes parts := by
  rw [loneTildes, List.filterMap_cons, ← loneTildes]
  by_cases h : run.sign = '~' ∧ run.count = 1 <;> simp [h]

/-- Whether an opener, if it is a single tilde, is one of those at some offsets. -/
def Opener.Among (offsets : List Nat) (opener : Opener) : Prop :=
  opener.run.sign = '~' → opener.run.count = 1 → opener.start ∈ offsets

/-- Whether both tildes of a pair are at some offsets. -/
def Strike.Among (offsets : List Nat) (strike : Strike) : Prop :=
  strike.first ∈ offsets ∧ strike.second ∈ offsets

section Strikes

variable {offsets : List Nat} {openers : List Opener}

/-- The opener that fits a run is one of the openers, and so are those below it. -/
lemma findOpener_eq_some {closer opener below}
    (h : findOpener closer openers = some (opener, below)) :
    opener ∈ openers ∧ below ⊆ openers ∧ opener.run.fits closer = true := by
  induction openers with
  | nil => cases h
  | cons first openers ih =>
    rw [findOpener] at h
    split at h
    · next hfits =>
      cases h
      exact ⟨List.mem_cons_self, List.subset_cons_self _ _, hfits⟩
    · obtain ⟨hmem, hbelow, hfits⟩ := ih h
      exact ⟨List.mem_cons_of_mem _ hmem, List.subset_cons_of_subset _ hbelow, hfits⟩

/-- The pairs that two runs make are single tildes. -/
lemma among_strikesOf {opener : Opener} {closer : Run} {start : Nat}
    (hfits : opener.run.fits closer = true) (hopener : opener.Among offsets)
    (hstart : closer.sign = '~' → closer.count = 1 → start ∈ offsets) :
    ∀ strike ∈ strikesOf opener closer start, strike.Among offsets := by
  rw [strikesOf]
  split
  · next hlone =>
    simp only [Run.fits, Bool.and_eq_true, beq_iff_eq, hlone.1, bne_self_eq_false, Bool.false_or]
      at hfits
    intro strike hstrike
    rw [List.mem_singleton.1 hstrike]
    exact ⟨hopener hfits.1.1 (hfits.1.2.trans hlone.2), hstart hlone.1 hlone.2⟩
  · exact List.forall_mem_nil _

/-- The pairs that a run makes are single tildes, and the openers that are left are as before. -/
lemma among_closeRun {closer : Run} {start fuel left} (hopeners : ∀ o ∈ openers, o.Among offsets)
    (hstart : closer.sign = '~' → closer.count = 1 → start ∈ offsets) :
    (∀ o ∈ (closeRun closer start fuel left openers).2.1, o.Among offsets) ∧
      ∀ strike ∈ (closeRun closer start fuel left openers).2.2, strike.Among offsets := by
  induction fuel generalizing left openers with
  | zero => exact ⟨hopeners, List.forall_mem_nil _⟩
  | succ fuel ih =>
    rw [closeRun]
    split
    · exact ⟨hopeners, List.forall_mem_nil _⟩
    split
    · refine ⟨?_, List.forall_mem_nil _⟩
      simp only
      split
      · exact fun o ho => hopeners o (List.mem_of_mem_filter ho)
      · exact hopeners
    · next opener below hfound =>
      obtain ⟨hmem, hbelow, hfits⟩ := findOpener_eq_some hfound
      have hrest : ∀ o ∈ (if min left opener.left < opener.left then
          { opener with left := opener.left - min left opener.left } :: below else below),
          o.Among offsets := by
        split
        · exact List.forall_mem_cons.2 ⟨hopeners opener hmem, fun o ho => hopeners o (hbelow ho)⟩
        · exact fun o ho => hopeners o (hbelow ho)
      obtain ⟨hopeners', hstrikes⟩ := @ih _ (left - min left opener.left) hrest
      refine ⟨hopeners', ?_⟩
      simp only [List.forall_mem_append]
      exact ⟨among_strikesOf hfits (hopeners opener hmem) hstart, hstrikes⟩

/-- The pairs that are found behind some openers are single tildes. -/
lemma among_strikesFrom {parts} (hopeners : ∀ o ∈ openers, o.Among offsets)
    (hparts : loneTildes parts ⊆ offsets) :
    ∀ strike ∈ strikesFrom openers parts, strike.Among offsets := by
  induction parts generalizing openers with
  | nil => exact List.forall_mem_nil _
  | cons part parts ih =>
    cases part with
    | run run span =>
      have hstart : run.sign = '~' → run.count = 1 → span.start ∈ offsets :=
        fun hsign hcount => hparts (mem_loneTildes_run.2 (.inl ⟨⟨hsign, hcount⟩, rfl⟩))
      have hrest : loneTildes parts ⊆ offsets := fun o ho => hparts (mem_loneTildes_run.2 (.inr ho))
      rw [strikesFrom]
      generalize hclosed : (if run.closes then
        closeRun run span.start (run.count + 1) run.count openers
          else (run.count, openers, [])) = closed
      have hspec : (∀ o ∈ closed.2.1, o.Among offsets) ∧
          ∀ strike ∈ closed.2.2, strike.Among offsets := by
        subst hclosed
        split
        · exact among_closeRun hopeners hstart
        · exact ⟨hopeners, List.forall_mem_nil _⟩
      obtain ⟨left, openers', found⟩ := closed
      simp only [List.forall_mem_append]
      refine ⟨hspec.2, ih ?_ hrest⟩
      split
      · exact List.forall_mem_cons.2 ⟨hstart, hspec.1⟩
      · exact hspec.1
    | _ => exact ih hopeners hparts

/-- The pairs that are found among parts are single tildes among them. -/
theorem among_strikes {parts} : ∀ strike ∈ strikes parts, strike.Among (loneTildes parts) :=
  among_strikesFrom (List.forall_mem_nil _) (List.Subset.refl _)

end Strikes

/-- Whether the tilde at an offset is one of a pair. -/
def isStruck (strikes : List Strike) (offset : Nat) : Bool :=
  strikes.any (·.first == offset) || strikes.any (·.second == offset)

/-- What a character between two others is written as. A tilde of a pair is written with the
character that it strikes out next to it, or not at all if that character takes up more bytes. -/
def writtenChar (strikes : List Strike) (before : Char) (offset : Nat) (c next : Char) :
    List Char :=
  if strikes.any (·.first == offset) then
    if Text.charSize next = 1 then [c, next] else []
  else if strikes.any (·.second == offset) then
    if Text.charSize before = 1 then [before, c] else []
  else [c]

/-- What a line, from an offset on, is written as if some pairs of tildes are found in it. -/
def written (strikes : List Strike) (before : Char) (offset : Nat) : List Char → List Char
  | [] => []
  | c :: cs =>
    writtenChar strikes before offset c (cs.head?.getD '\n') ++
      written strikes c (offset + Text.charSize c) cs

/-- The text of a part that is text. -/
def Inline.chars : Inline → List Char
  | .text chars _ => chars
  | _ => []

/-- The text of parts with their runs of signs settled. -/
def settledText (strikes : List Strike) (parts : List Inline) : List Char :=
  (parts.filterMap fun
    | .run run span => settleRun strikes run span
    | part => some part).flatMap Inline.chars

section Written

variable {found : List Strike} {before sign c next : Char} {offset count : Nat} {cs ds : List Char}
  {parts : List Inline}

/-- A character that is no tilde of a pair is written as it is. -/
lemma writtenChar_eq (h : isStruck found offset = false) :
    writtenChar found before offset c next = [c] := by
  rw [isStruck, Bool.or_eq_false_iff] at h
  simp [writtenChar, h]

/-- A text without tildes of pairs is written as it is. -/
lemma written_append
    (h : ∀ o, offset ≤ o → o < offset + Text.byteSize cs → isStruck found o = false) :
    written found before offset (cs ++ ds) =
      cs ++ written found (cs.getLastD before) (offset + Text.byteSize cs) ds := by
  induction cs generalizing before offset with
  | nil => rfl
  | cons c cs ih =>
    have hsize : 0 < Text.charSize c := c.utf8Size_pos
    rw [Text.byteSize, ← Nat.add_assoc] at h ⊢
    rw [List.cons_append, written, writtenChar_eq (h offset (Nat.le_refl _) (by omega)),
      ih fun o hlo hhi => h o (by omega) hhi, List.getLastD_cons]
    rfl

/-- A tilde of a pair is lost, or written with another character. -/
lemma writtenChar_struck (h : isStruck found offset = true) (hbefore : before ≠ '~')
    (hnext : next ≠ '~') :
    writtenChar found before offset '~' next = [] ∨
      (writtenChar found before offset '~' next).length = 2 ∧
        (writtenChar found before offset '~' next).count '~' = 1 := by
  rw [isStruck, Bool.or_eq_true] at h
  unfold writtenChar
  split
  · split
    · exact .inr ⟨rfl, by simp [hnext]⟩
    · exact .inl rfl
  · next hfirst =>
    rw [if_pos (h.resolve_left hfirst)]
    split
    · exact .inr ⟨rfl, by simp [hbefore]⟩
    · exact .inl rfl

/-- A run that is no tilde of a pair is settled as it is. -/
lemma settleRun_eq {run : Run} {span : Span} (h : isStruck found span.start = false) :
    settleRun found run span = some (.text (.replicate run.count run.sign) span) := by
  rw [isStruck, Bool.or_eq_false_iff] at h
  simp [settleRun, h]

/-- A text is settled as it is. -/
lemma settledText_text {span} :
    settledText found (.text cs span :: parts) = cs ++ settledText found parts :=
  rfl

/-- A run is settled before the other parts. -/
lemma settledText_run {run : Run} {span : Span} :
    settledText found (.run run span :: parts) =
      (settleRun found run span).elim [] Inline.chars ++ settledText found parts := by
  rw [settledText, List.filterMap_cons]
  simp only
  cases settleRun found run span <;> rfl

/-- A single tilde is settled as it is written. -/
lemma settledText_tilde {span : Span} :
    settledText found (.run ⟨'~', 1, before, next⟩ span :: parts) =
      writtenChar found before span.start '~' next ++ settledText found parts := by
  rw [settledText_run, settleRun, writtenChar]
  split
  · split <;> rfl
  · split
    · split <;> rfl
    · rfl

/-- How what a text is written as differs from it: it has fewer tildes, or else it is longer if
there is a pair of tildes. -/
structure Differs (found : List Strike) (before : Char) (offset : Nat) (cs : List Char) : Prop where
  /-- There are no more tildes. -/
  count : (written found before offset cs).count '~' ≤ cs.count '~'
  /-- It is no shorter if there are as many. -/
  length : (written found before offset cs).count '~' = cs.count '~' →
    cs.length ≤ (written found before offset cs).length
  /-- It is longer then if there is a tilde of a pair. -/
  longer : (written found before offset cs).count '~' = cs.count '~' →
    ∀ o, offset ≤ o → isStruck found o = true → cs.length < (written found before offset cs).length

namespace Differs

/-- A text without tildes of pairs makes no difference. -/
lemma append (hidle : ∀ o, offset ≤ o → o < offset + Text.byteSize cs → isStruck found o = false)
    (h : Differs found (cs.getLastD before) (offset + Text.byteSize cs) ds) :
    Differs found before offset (cs ++ ds) := by
  have hwritten := @written_append found before offset cs ds hidle
  obtain ⟨hcount, hlength, hlonger⟩ := h
  refine ⟨?_, fun hsame => ?_, fun hsame o hlo hstruck => ?_⟩ <;>
    simp only [hwritten, List.count_append, List.length_append] at *
  · omega
  · have := hlength (by omega)
    omega
  · have hhi : offset + Text.byteSize cs ≤ o := by
      by_contra hhi
      rw [hidle o hlo (by omega)] at hstruck
      cases hstruck
    have := hlonger (by omega) o hhi hstruck
    omega

/-- A tilde of a pair is lost, or a character is written twice. -/
lemma tilde (hstruck : isStruck found offset = true) (hbefore : before ≠ '~')
    (hnext : cs.head?.getD '\n' ≠ '~') (h : Differs found '~' (offset + 1) cs) :
    Differs found before offset ('~' :: cs) := by
  have hwritten : written found before offset ('~' :: cs) =
      writtenChar found before offset '~' (cs.head?.getD '\n') ++
        written found '~' (offset + 1) cs := rfl
  have hcons : ('~' :: cs).count '~' = cs.count '~' + 1 := List.count_cons_self
  obtain ⟨hcount, hlength, -⟩ := h
  have hlonger : (written found before offset ('~' :: cs)).count '~' = ('~' :: cs).count '~' →
      ('~' :: cs).length < (written found before offset ('~' :: cs)).length := by
    intro hsame
    rw [hwritten, List.count_append, hcons] at hsame
    rw [hwritten, List.length_append, List.length_cons]
    obtain hlost | ⟨htwo, hone⟩ := writtenChar_struck hstruck hbefore hnext
    · rw [hlost, List.count_nil] at hsame
      omega
    · have := hlength (by omega)
      omega
  refine ⟨?_, fun hsame => Nat.le_of_lt (hlonger hsame), fun hsame _ _ _ => hlonger hsame⟩
  rw [hwritten, List.count_append, hcons]
  obtain hlost | ⟨-, hone⟩ := writtenChar_struck hstruck hbefore hnext
  · rw [hlost, List.count_nil]
    omega
  · omega

end Differs

namespace Parted

/-- The single tildes among parts are not before their text. -/
lemma le_of_mem_loneTildes (h : Parted before offset cs parts) :
    ∀ o ∈ loneTildes parts, offset ≤ o := by
  induction h with
  | nil => exact List.forall_mem_nil _
  | text hcs h ih => exact fun o ho => Nat.le_trans (Nat.le_add_right ..) (ih o ho)
  | run hsign hbefore hafter h ih =>
    intro o ho
    obtain ⟨-, rfl⟩ | ho := mem_loneTildes_run.1 ho
    · exact Nat.le_refl _
    · exact Nat.le_trans (Nat.le_add_right ..) (ih o ho)

/-- A single tilde among parts stands alone in their text. -/
lemma exists_of_mem_loneTildes (h : Parted before offset cs parts) :
    ∀ o ∈ loneTildes parts, ∃ front back, cs = front ++ '~' :: back ∧
      front.getLastD before ≠ '~' ∧ back.head? ≠ some '~' := by
  induction h with
  | nil => exact List.forall_mem_nil _
  | @text before offset cs ds parts hcs h ih =>
    intro o ho
    obtain ⟨front, back, rfl, hfront, hback⟩ := ih o ho
    exact ⟨cs ++ front, back, by rw [List.append_assoc], by rwa [getLastD_append], hback⟩
  | @run sign before offset count cs parts hsign hbefore hafter h ih =>
    intro o ho
    obtain ⟨⟨hsign, hcount⟩, -⟩ | ho := mem_loneTildes_run.1 ho
    · cases hsign
      cases hcount
      exact ⟨[], cs, rfl, hbefore, hafter⟩
    · obtain ⟨front, back, rfl, hfront, hback⟩ := ih o ho
      exact ⟨.replicate (count + 1) sign ++ front, back, by rw [List.append_assoc],
        by rwa [getLastD_append, getLastD_replicate], hback⟩

/-- Whether all tildes of pairs from an offset on are single tildes among parts. -/
def Strikes (found : List Strike) (offset : Nat) (parts : List Inline) : Prop :=
  ∀ o, offset ≤ o → isStruck found o = true → o ∈ loneTildes parts

/-- No tilde of a pair is in a text. -/
lemma Strikes.text {span} (h : Parted (cs.getLastD before) (offset + Text.byteSize cs) ds parts)
    (hfound : Strikes found offset (.text cs span :: parts)) :
    (∀ o, offset ≤ o → o < offset + Text.byteSize cs → isStruck found o = false) ∧
      Strikes found (offset + Text.byteSize cs) parts := by
  refine ⟨fun o hlo hhi => ?_, fun o hlo => hfound o (Nat.le_trans (Nat.le_add_right ..) hlo)⟩
  rw [← Bool.not_eq_true]
  intro hstruck
  have := h.le_of_mem_loneTildes o (hfound o hlo hstruck)
  omega

/-- No tilde of a pair is in a run, unless the run is the tilde. -/
lemma Strikes.run {after span} (h : Parted sign (offset + (count + 1)) cs parts)
    (hspan : span.start = offset)
    (hfound : Strikes found offset (.run ⟨sign, count + 1, before, after⟩ span :: parts)) :
    ((∀ o, offset ≤ o → o < offset + (count + 1) → isStruck found o = false) ∨
      sign = '~' ∧ count = 0 ∧ isStruck found offset = true) ∧
        Strikes found (offset + (count + 1)) parts := by
  refine ⟨?_, fun o hlo hstruck => ?_⟩
  · by_cases hany : ∃ o, offset ≤ o ∧ o < offset + (count + 1) ∧ isStruck found o = true
    · obtain ⟨o, hlo, hhi, hstruck⟩ := hany
      obtain ⟨⟨hsign, hcount⟩, rfl⟩ | ho := mem_loneTildes_run.1 (hfound o hlo hstruck)
      · exact .inr ⟨hsign, Nat.succ.inj hcount, hspan ▸ hstruck⟩
      · have := h.le_of_mem_loneTildes o ho
        omega
    · refine .inl fun o hlo hhi => ?_
      rw [← Bool.not_eq_true]
      exact fun hstruck => hany ⟨o, hlo, hhi, hstruck⟩
  · obtain ⟨-, rfl⟩ | ho := mem_loneTildes_run.1 (hfound o (by omega) hstruck)
    · omega
    · exact ho

/-- The settled parts of a text are what it is written as. -/
theorem settledText_eq (h : Parted before offset cs parts) (hfound : Strikes found offset parts) :
    settledText found parts = written found before offset cs := by
  induction h with
  | nil => rfl
  | text hcs h ih =>
    obtain ⟨hidle, hrest⟩ := hfound.text h
    rw [written_append hidle, settledText_text, ih hrest]
  | @run sign before offset count cs parts hsign hbefore hafter h ih =>
    obtain ⟨hidle | ⟨rfl, rfl, -⟩, hrest⟩ := hfound.run h rfl
    · have hsize := @byteSize_run sign (count + 1) hsign
      rw [← hsize] at hidle
      rw [written_append hidle, settledText_run,
        settleRun_eq (hidle offset (Nat.le_refl _) (by omega)), ih hrest, hsize,
        getLastD_replicate]
      rfl
    · rw [settledText_tilde, ih hrest]
      rfl

/-- What a text with a pair of tildes is written as differs from it. -/
theorem differs (h : Parted before offset cs parts) (hfound : Strikes found offset parts) :
    Differs found before offset cs := by
  induction h with
  | nil =>
    refine ⟨Nat.le_refl _, fun _ => Nat.le_refl _, fun _ o hlo hstruck => ?_⟩
    cases hfound o hlo hstruck
  | text hcs h ih =>
    obtain ⟨hidle, hrest⟩ := hfound.text h
    exact .append hidle (ih hrest)
  | @run sign before offset count cs parts hsign hbefore hafter h ih =>
    obtain ⟨hidle | ⟨rfl, rfl, hstruck⟩, hrest⟩ := hfound.run h rfl
    · have hsize := @byteSize_run sign (count + 1) hsign
      have hcs := ih hrest
      rw [← hsize] at hidle hcs
      exact .append hidle (by rwa [getLastD_replicate])
    · exact .tilde hstruck hbefore (ne_after_run hsign hafter) (ih hrest)

/-- The tildes of the pairs that are found among parts are single tildes among them. -/
lemma Strikes.of_strikes : Strikes (strikes parts) offset parts := by
  intro o _ hstruck
  rw [isStruck, Bool.or_eq_true, List.any_eq_true, List.any_eq_true] at hstruck
  obtain ⟨strike, hmem, ho⟩ | ⟨strike, hmem, ho⟩ := hstruck
  · exact beq_iff_eq.1 ho ▸ (among_strikes strike hmem).1
  · exact beq_iff_eq.1 ho ▸ (among_strikes strike hmem).2

/-- A text is written as it is if and only if no pair of tildes is found in it. -/
theorem written_eq_iff (h : Parted before offset cs parts) :
    written (strikes parts) before offset cs = cs ↔ strikes parts = [] := by
  constructor
  · intro heq
    rw [List.eq_nil_iff_forall_not_mem]
    intro strike hstrike
    have hstruck : isStruck (strikes parts) strike.first = true := by
      rw [isStruck, Bool.or_eq_true, List.any_eq_true]
      exact .inl ⟨strike, hstrike, beq_self_eq_true _⟩
    have hlonger := (h.differs .of_strikes).longer (by rw [heq]) strike.first
      (h.le_of_mem_loneTildes _ (among_strikes strike hstrike).1) hstruck
    rw [heq] at hlonger
    exact Nat.lt_irrefl _ hlonger
  · intro hnone
    have hidle := @written_append [] before offset cs [] fun _ _ _ => rfl
    rwa [List.append_nil, written, List.append_nil, ← hnone] at hidle

/-- Without a tilde that stands alone no pair of tildes is found. -/
lemma exists_lone (h : Parted '\n' offset cs parts) (hfound : strikes parts ≠ []) :
    ∃ front back, cs = front ++ '~' :: back ∧ front.getLast? ≠ some '~' ∧
      back.head? ≠ some '~' := by
  obtain ⟨strike, hstrike⟩ := List.exists_mem_of_ne_nil _ hfound
  obtain ⟨front, back, e, hfront, hback⟩ :=
    h.exists_of_mem_loneTildes _ (among_strikes strike hstrike).1
  refine ⟨front, back, e, fun hlast => hfront ?_, hback⟩
  rw [List.getLastD_eq_getLast?, hlast]
  rfl

end Parted

end Written

/-- The parts of a text are texts and runs. -/
lemma Parted.text_or_run {before offset cs parts} (h : Parted before offset cs parts) :
    ∀ part ∈ parts, (∃ chars span, part = .text chars span) ∨ ∃ run span, part = .run run span := by
  induction h with
  | nil => exact List.forall_mem_nil _
  | text hcs h ih => exact List.forall_mem_cons.2 ⟨.inl ⟨_, _, rfl⟩, ih⟩
  | run hsign hbefore hafter h ih => exact List.forall_mem_cons.2 ⟨.inr ⟨_, _, rfl⟩, ih⟩

/-- The settled parts of a text are texts. -/
lemma Parted.exists_text {before offset cs parts} (h : Parted before offset cs parts) :
    ∀ part ∈ settleRuns parts, ∃ chars span, part = .text chars span := by
  intro part hpart
  obtain ⟨part', hmem, hsettle⟩ := List.mem_filterMap.1 hpart
  obtain ⟨chars, span, rfl⟩ | ⟨run, span, rfl⟩ := h.text_or_run part' hmem
  · cases hsettle
    exact ⟨chars, span, rfl⟩
  · obtain hnone | ⟨chars, place, hsome, -⟩ :=
      @InlinesInOrder.settleRun_cases span (strikes parts) run
    · cases hnone.symm.trans hsettle
    · cases hsome.symm.trans hsettle
      exact ⟨chars, place, rfl⟩

/-- A text that starts with a letter starts with a text. -/
lemma Parted.settleRuns_ne_nil {before offset cs parts} (h : Parted before offset cs parts)
    (hfirst : cs.head?.any isLetter = true) : settleRuns parts ≠ [] := by
  cases h with
  | nil => cases hfirst
  | text hcs h =>
    rw [settleRuns, List.filterMap_cons]
    exact List.cons_ne_nil _ _
  | run hsign hbefore hafter h =>
    rw [List.replicate_succ, List.cons_append, List.head?_cons, Option.any_some] at hfirst
    rw [isSign, Bool.or_eq_true, beq_iff_eq, beq_iff_eq] at hsign
    obtain rfl | rfl := hsign <;> cases hfirst

/-- Texts after a text are joined to it. -/
lemma inlines_after_text {done quoted listed text span parts}
    (hparts : ∀ part ∈ parts, ∃ chars span, part = Inline.text chars span) :
    ∃ span', (Lexemes.idle (⟨.text text, span, quoted, listed⟩ :: done) quoted listed).inlines
      parts = .idle (⟨.text (text ++ parts.flatMap Inline.chars), span', quoted, listed⟩ :: done)
        quoted listed := by
  induction parts generalizing text span with
  | nil =>
    refine ⟨span, ?_⟩
    rw [Lexemes.inlines, List.flatMap_nil, List.append_nil]
  | cons part parts ih =>
    obtain ⟨⟨chars, span', rfl⟩, hrest⟩ := List.forall_mem_cons.1 hparts
    obtain ⟨span'', e⟩ := @ih (text ++ chars) ⟨span.start, span'.stop⟩ hrest
    refine ⟨span'', ?_⟩
    rw [Lexemes.inlines, Lexemes.inline, List.flatMap_cons, ← List.append_assoc]
    exact e

/-- Texts one after the other are one text. -/
lemma inlines_texts {done quoted listed parts} (hdone : startsWithText done = false)
    (hne : parts ≠ []) (hparts : ∀ part ∈ parts, ∃ chars span, part = Inline.text chars span) :
    ∃ span, (Lexemes.idle done quoted listed).inlines parts =
      .idle (⟨.text (parts.flatMap Inline.chars), span, quoted, listed⟩ :: done) quoted listed := by
  obtain ⟨part, parts, rfl⟩ := List.exists_cons_of_ne_nil hne
  obtain ⟨⟨chars, span, rfl⟩, hrest⟩ := List.forall_mem_cons.1 hparts
  obtain ⟨span', e⟩ := @inlines_after_text done quoted listed chars span parts hrest
  refine ⟨span', ?_⟩
  rw [Lexemes.inlines, Lexemes.inline, Lexemes.text_idle hdone]
  exact e

/-- A line of words and signs of emphasis. -/
structure Emphasized (line : List Char) : Prop where
  /-- It starts with a letter. -/
  first : line.head?.any isLetter = true
  /-- It ends with a letter. -/
  last : line.getLast?.any isLetter = true
  /-- It has nothing but letters, spaces and signs of emphasis. -/
  chars : line.all isEmphasized = true

instance (line : List Char) : Decidable (Emphasized line) :=
  decidable_of_iff (line.head?.any isLetter = true ∧ line.getLast?.any isLetter = true ∧
    line.all isEmphasized = true)
    ⟨fun ⟨hfirst, hlast, hchars⟩ => ⟨hfirst, hlast, hchars⟩,
      fun h => ⟨h.first, h.last, h.chars⟩⟩

/-- The pairs of single tildes that are found in a line at the start of a source. -/
def strikesIn (line : List Char) : List Strike :=
  strikes (partsOf [] (glyphsFrom 0 line))

/-- Whether a tilde of a line has no tilde next to it. -/
def HasLoneTilde (line : List Char) : Prop :=
  ∃ front back, line = front ++ '~' :: back ∧ front.getLast? ≠ some '~' ∧ back.head? ≠ some '~'

namespace Emphasized

variable {line : List Char} (h : Emphasized line)
include h

/-- The line is cut into parts. -/
lemma legible : Legible '\n' line := by
  refine ⟨List.all_eq_true.1 h.chars, fun e => ?_, ?_⟩
  · have := h.last
    rw [e] at this
    cases this
  · rintro c - hsign rfl
    cases hsign

/-- Wherever the line stands, it is read as one text. -/
lemma spells {quoted listed : Bool} (offset : Nat) :
    ∃ parts, Parted '\n' offset line parts ∧ partsOf [] (glyphsFrom offset line) = parts ∧
      ∀ {after}, Ended after → Spells quoted listed (glyphsFrom offset line ++ after)
        [(.text (written (strikes parts) '\n' offset line),
          if quoted then some .blockquote else if listed then some .citation else none)] := by
  obtain ⟨parts, hparted, hparts⟩ := @Legible.partsOf offset line h.legible
  have hnone := @hparts [] [] (.inl rfl)
  rw [List.append_nil] at hnone
  refine ⟨parts, hparted, hnone, fun {after} ha done hdone => ?_⟩
  obtain ⟨span, e⟩ := @inlines_texts done quoted listed (settleRuns parts) hdone
    (hparted.settleRuns_ne_nil h.first) hparted.exists_text
  have htext : (settleRuns parts).flatMap Inline.chars = settledText (strikes parts) parts := rfl
  rw [htext, hparted.settledText_eq .of_strikes] at e
  refine ⟨⟨.text (written (strikes parts) '\n' offset line), span, quoted, listed⟩ :: done, ?_,
    .cons, rfl⟩
  rw [inlinesOf_eq, hparts ha, e]

/-- The line starts with a letter. -/
lemma exists_letter : ∃ c cs, line = c :: cs ∧ isLetter c = true := by
  cases line with
  | nil => cases h.first
  | cons c cs => exact ⟨c, cs, rfl, h.first⟩

/-- There is no end of a line in the line. -/
lemma oneLine : OneLine line :=
  fun c hc => ⟨Text.ne_of_kind (List.all_eq_true.1 h.chars c hc) rfl,
    Text.ne_of_kind (List.all_eq_true.1 h.chars c hc) rfl⟩

end Emphasized

/-- Text may start with a letter. -/
lemma isTextStart_of_isLetter {c} (h : isLetter c = true) : isTextStart c = true := by
  have hdigit : c.isDigit = false := by
    rw [← Bool.not_eq_true]
    intro hc
    have := @Text.forall_isDigit (!isLetter ·) (by decide) c hc
    rw [h] at this
    cases this
  have hne : ∀ d, isLetter d = false → (c == d) = false :=
    fun d hd => beq_eq_false_iff_ne.2 (Text.ne_of_kind h hd)
  have hmem : c ∉ ['_', '#', '>', '<'] := by
    simp [Text.ne_of_kind (d := '_') h rfl, Text.ne_of_kind (d := '#') h rfl,
      Text.ne_of_kind (d := '>') h rfl, Text.ne_of_kind (d := '<') h rfl]
  rw [isTextStart, isSpace, isBullet, hdigit, hne ' ' rfl, hne '\t' rfl, hne '\x0b' rfl,
    hne '\x0c' rfl, hne '-' rfl, hne '+' rfl, hne '*' rfl, decide_eq_false hmem]
  rfl

/-- A line that starts with a letter starts with no fence. -/
lemma openingFence?_of_isLetter {c cs} (h : isLetter c = true) :
    openingFence? (c :: cs) = none := by
  simp [openingFence?, Text.ne_of_kind (d := '\x60') h rfl, Text.ne_of_kind (d := '~') h rfl]

/-- Outlines of a source with one paragraph, which is open or finished. -/
inductive Alone (glyphs : List Glyph) : Outline → Prop where
  /-- The paragraph is open. -/
  | pending {start afterBlank} :
      Alone glyphs ⟨[], [], some (.paragraph start glyphs), afterBlank, none, []⟩
  /-- The paragraph is finished. -/
  | closed {span afterBlank} :
      Alone glyphs ⟨[], [.paragraph glyphs span], none, afterBlank, none, []⟩

namespace Alone

variable {glyphs : List Glyph} {o : Outline}

/-- A blank line finishes the paragraph. -/
lemma blank (hg : Undefined glyphs) (h : Alone glyphs o) {start beforeBlank} :
    Alone glyphs (o.read (blankLine start beforeBlank)) := by
  cases h with
  | pending =>
    have hunderline : ((⟨start, [], 0, 0⟩ : Cursor).skipUpTo 4).1 ≠ 4 ∧
        underlineLevel? ((⟨start, [], 0, 0⟩ : Cursor).skipUpTo 4).2.rest = none :=
      ⟨Nat.zero_ne_add_one 3, rfl⟩
    have hcontinued : continued (.ofLine (blankLine start beforeBlank)) [] =
        (0, ⟨start, [], 0, 0⟩) := rfl
    rw [hg.read [] 0 hcontinued hunderline fun _ => rfl]
    exact @closed glyphs _ true
  | closed => exact @closed glyphs _ true

/-- Blank lines finish the paragraph. -/
lemma blanks (hg : Undefined glyphs) {offset n} (h : Alone glyphs o) :
    Alone glyphs ((linesFrom offset (.replicate n '\n')).foldl Outline.read o) := by
  induction n generalizing offset o with
  | zero => exact h
  | succ n ih =>
    have hlines := @linesFrom_line offset [] (.replicate n '\n') (List.forall_mem_nil _)
    rw [List.replicate_succ, show '\n' :: List.replicate n '\n' =
      [] ++ '\n' :: List.replicate n '\n' from rfl, hlines, List.foldl_cons]
    exact ih (h.blank hg)

/-- At the end of the source there is nothing but the paragraph. -/
lemma finish (hg : Undefined glyphs) {stop} (h : Alone glyphs o) :
    ∃ span, (o.finish stop).blocks = [.paragraph glyphs span] ∧
      (o.finish stop).definitions = [] := by
  cases h with
  | @pending start afterBlank =>
    refine ⟨⟨start, stop⟩, ?_⟩
    rw [Outline.finish, hg.closeLeaf]
    exact ⟨rfl, rfl⟩
  | @closed span afterBlank => exact ⟨span, rfl, rfl⟩

end Alone

/-- A line without an ending is the last one. -/
lemma linesFrom_last {offset cs} (h : OneLine cs) (hne : cs ≠ []) :
    linesFrom offset cs = [⟨offset, cs, [], true⟩] := by
  induction cs generalizing offset with
  | nil => exact (hne rfl).elim
  | cons c cs ih =>
    rw [linesFrom_cons (h c List.mem_cons_self)]
    cases cs with
    | nil => rfl
    | cons d ds => rw [ih (fun d hd => h d (List.mem_cons_of_mem c hd)) (List.cons_ne_nil _ _)]

/-- The first line of a source before blank lines, which may be none. -/
lemma exists_linesOf {cs} (h : OneLine cs) (hne : cs ≠ []) (n : Nat) :
    ∃ ending beforeBlank offset m, (ending = [] ∨ ending = ['\n']) ∧
      linesOf (cs ++ .replicate n '\n') =
        ⟨0, cs, ending, beforeBlank⟩ :: linesFrom offset (.replicate m '\n') := by
  cases n with
  | zero =>
    refine ⟨[], true, 0, 0, .inl rfl, ?_⟩
    rw [List.replicate_zero, List.append_nil, linesOf, linesFrom_last h hne]
    rfl
  | succ n =>
    rw [List.replicate_succ, linesOf, linesFrom_line h]
    exact ⟨_, _, _, n, .inr rfl, rfl⟩

/-- A line that starts with a letter and the blank lines after it are one paragraph. -/
lemma outlineOf_line {c cs} (hc : isLetter c = true) (hline : OneLine (c :: cs)) (n : Nat) :
    ∃ span after, Ended after ∧ outlineOf (c :: cs ++ .replicate n '\n') =
      ([.paragraph (glyphsFrom 0 (c :: cs) ++ after) span], []) := by
  obtain ⟨ending, beforeBlank, offset, m, hending, hlines⟩ :=
    exists_linesOf hline (List.cons_ne_nil _ _) n
  let line : Line := ⟨0, c :: cs, ending, beforeBlank⟩
  obtain ⟨after, hafter, hglyphs⟩ : ∃ after, Ended after ∧
      glyphsOf line ⟨0, c :: cs, 0, 0⟩ = glyphsFrom 0 (c :: cs) ++ after := by
    obtain rfl | rfl := hending
    · exact ⟨[], .inl rfl, rfl⟩
    · exact ⟨_, .inr ⟨_, rfl, rfl⟩, rfl⟩
  have hread : Outline.empty.read line =
      ⟨[], [], some (.paragraph 0 (glyphsFrom 0 (c :: cs) ++ after)), false, none, []⟩ := by
    have hstart := @startBlocks_textStart [] line 0 0 (c :: cs).length [] .empty rfl c cs
      (isTextStart_of_isLetter hc) (openingFence?_of_isLetter hc)
    rw [hglyphs] at hstart
    exact hstart
  have hg : Undefined (glyphsFrom 0 (c :: cs) ++ after) := by
    refine ⟨List.cons_ne_nil _ _, fun rest => definition?_of_ne ?_⟩
    exact Text.ne_of_kind hc rfl
  have halone := @Alone.blanks _ _ hg offset m (@Alone.pending _ 0 false)
  rw [← hread] at halone
  obtain ⟨span, hblocks, hdefinitions⟩ :=
    @Alone.finish _ _ hg (Text.byteSize (c :: cs ++ .replicate n '\n')) halone
  refine ⟨span, after, hafter, ?_⟩
  rw [outlineOf, hlines, List.foldl_cons]
  exact Prod.ext (congrArg List.reverse hblocks) hdefinitions

/-- A line of words and signs of emphasis is one text, and a break after it. The text is the line,
except that tildes that stand alone and are found to be a pair are not written as they are; it is
the line if and only if there are none, so in particular if no tilde stands alone. -/
theorem lexemesOf_emphasized {line : List Char} (h : Emphasized line) (n : Nat) :
    (lexemesOf (line ++ .replicate n '\n')).map Lexeme.shown =
        [(.text (written (strikesIn line) '\n' 0 line), none), (.break, none)] ∧
      (written (strikesIn line) '\n' 0 line = line ↔ strikesIn line = []) ∧
      (¬HasLoneTilde line → strikesIn line = []) := by
  obtain ⟨parts, hparted, hparts, hspells⟩ := @Emphasized.spells line h false false 0
  obtain ⟨c, cs, rfl, hc⟩ := h.exists_letter
  obtain ⟨span, after, hafter, hblocks⟩ := outlineOf_line hc h.oneLine n
  rw [strikesIn, hparts]
  refine ⟨?_, hparted.written_eq_iff, fun hlone => ?_⟩
  · obtain ⟨done, e, ⟨ls, rfl, hshown⟩, -⟩ := @Yields.paragraph _ _ _ span _ (hspells hafter) [] rfl
    have hdone : Lexemes.empty.blocks [] false [.paragraph (glyphsFrom 0 (c :: cs) ++ after) span] =
        .idle (ls.reverse ++ []) false false := e
    rw [lexemesOf, hblocks]
    simp only [hdone, Lexemes.idle, List.append_nil, List.reverse_reverse]
    exact hshown
  · by_contra hfound
    exact hlone (hparted.exists_lone hfound)

/-- Emphasis, strong emphasis and text that double tildes strike out stay as they are. -/
theorem lexemesOf_boldMove :
    Emphasized "a *bold* ~~move~~ **indeed".toList ∧
      (lexemesOf ("a *bold* ~~move~~ **indeed".toList ++ ['\n'])).map Lexeme.shown =
        [(.text "a *bold* ~~move~~ **indeed".toList, none), (.break, none)] := by
  have hline : Emphasized "a *bold* ~~move~~ **indeed".toList := by decide +kernel
  have hnone : strikesIn "a *bold* ~~move~~ **indeed".toList = [] := by decide +kernel
  obtain ⟨hlexemes, hwritten, -⟩ := lexemesOf_emphasized hline 1
  rw [hwritten.2 hnone] at hlexemes
  exact ⟨hline, hlexemes⟩

/-- Single tildes that strike out a letter are written with the letter once more each. -/
theorem struckLetter_not_literal :
    Emphasized "a ~b~ c".toList ∧
      (lexemesOf "a ~b~ c".toList).map Lexeme.shown =
        [(.text "a ~bbb~ c".toList, none), (.break, none)] ∧
      ∀ l ∈ lexemesOf "a ~b~ c".toList, l.token ≠ .text "a ~b~ c".toList := by
  decide +kernel

end Gamebook.Markup
