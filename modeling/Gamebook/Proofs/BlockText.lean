import Gamebook.Markup.Flowchart
import Gamebook.Proofs.DocumentText
import Gamebook.Proofs.RelaxedText

/-!
# Blocks of code

The states of actions and the flowcharts of stories are written in lines that stay inside of their
block. Main definition: `Laid`. Main statements: `State.enclosed_prettyChars`,
`Story.enclosed_flowchart`, `actionOf_prettyChars`.
-/

namespace Gamebook

open Markup

namespace Markup

/-- The rest of a line and the lines after it: every line after it has some indentation and a
character that may start a line of a block of code. -/
inductive Laid : List Char → Prop where
  /-- There is no more text. -/
  | nil : Laid []
  /-- The line goes on. -/
  | cons {c cs} (hc : c ≠ '\n' ∧ c ≠ '\r') (h : Laid cs) : Laid (c :: cs)
  /-- Another line starts. -/
  | newLine {n c cs} (hc : isContentStart c = true) (h : Laid cs) :
      Laid ('\n' :: (List.replicate n ' ' ++ c :: cs))

namespace Laid

variable {cs ds : List Char}

/-- Text of one line goes on with a line. -/
lemma of_oneLine (h : OneLine cs) : Laid cs := by
  induction cs with
  | nil => exact .nil
  | cons c cs ih =>
    exact .cons (h c List.mem_cons_self) (ih fun d hd => h d (List.mem_cons_of_mem c hd))

/-- More text may come after the lines. -/
lemma append (hc : Laid cs) (hd : Laid ds) : Laid (cs ++ ds) := by
  induction hc with
  | nil => exact hd
  | cons hc _ ih => exact .cons hc ih
  | newLine hc _ ih =>
    rw [List.cons_append, List.append_assoc]
    exact .newLine hc ih

/-- A started line and what is laid out behind it are lines of a block of code and a last line. -/
lemma exists_last {n c text} (h : Laid cs) (hc : isContentStart c = true)
    (ht : OneLine (c :: text)) :
    ∃ lines m d more, Enclosed lines ∧ isContentStart d = true ∧ OneLine (d :: more) ∧
      List.replicate n ' ' ++ c :: text ++ cs = lines ++ (List.replicate m ' ' ++ d :: more) := by
  induction h generalizing n c text with
  | nil => exact ⟨[], n, c, text, .nil, hc, ht, List.append_nil _⟩
  -- a character goes on with the line that is open, and a new line closes it
  | @cons d cs hd _ ih =>
    obtain ⟨lines, m, e, more, hlines, he, hmore, heq⟩ :=
      @ih n c (text ++ [d]) hc (ht.append (@OneLine.cons d [] hd (List.forall_mem_nil _)))
    refine ⟨lines, m, e, more, hlines, he, hmore, ?_⟩
    rw [← heq]
    simp
  | @newLine k d cs hd h ih =>
    have hd' : OneLine [d] := .cons ⟨Text.ne_of_kind hd rfl, Text.ne_of_kind hd rfl⟩
      (List.forall_mem_nil _)
    obtain ⟨lines, m, e, more, hlines, he, hmore, heq⟩ := @ih k d [] hd hd'
    rw [List.append_assoc, List.singleton_append] at heq
    refine ⟨_, m, e, more, .line (n := n) hc ht hlines, he, hmore, ?_⟩
    rw [heq]
    simp

/-- A started line and the lines after it are lines of a block of code. -/
lemma enclosed {n c text} (h : Laid cs) (hc : isContentStart c = true) (ht : OneLine (c :: text)) :
    Enclosed (List.replicate n ' ' ++ c :: text ++ cs ++ ['\n']) := by
  obtain ⟨lines, m, d, more, hlines, hd, hmore, e⟩ := h.exists_last hc ht
  rw [e, List.append_assoc]
  exact hlines.append (.line hd hmore .nil)

end Laid

end Markup

namespace Json

/-- A written character has no end of a line. -/
lemma oneLine_escapeChar {c} : OneLine (escapeChar c) := by
  obtain ⟨h, -, -, hc⟩ | ⟨d, h, hd⟩ | ⟨hc, h⟩ := @escapeChar_forms c
  · rw [h]
    refine .cons ⟨?_, ?_⟩ (List.forall_mem_nil _)
    · rintro rfl
      exact hc (by decide)
    · rintro rfl
      exact hc (by decide)
  · rw [h]
    have hshort : ∀ pair ∈ shortEscapes, OneLine ['\\', pair.1] := by decide
    exact hshort _ hd
  · rw [h]
    have hhex : ∀ n < 16, OneLine [lowerHexDigit n] := by decide
    exact @OneLine.append ['\\', 'u', '0', '0'] _ (by decide)
      (.append (hhex _ (by omega)) (hhex _ (by omega)))

/-- A written text has no end of a line. -/
lemma oneLine_quoted {text : String} : OneLine (quoted text) := by
  refine .cons (by decide) (.append ?_ (by decide))
  intro c hc
  obtain ⟨d, -, hd⟩ := List.mem_flatMap.1 hc
  exact oneLine_escapeChar c hd

/-- The digits of a number have no end of a line. -/
lemma oneLine_natText {n} : OneLine (Number.natText n) := by
  intro c hc
  have := @Text.forall_isDigit (fun c => c != '\n' && c != '\r') (by decide) c
    (Number.isDigit_of_mem_natText hc)
  simpa using this

lemma oneLine_signText {negative} : OneLine (Number.signText negative) := by
  cases negative <;> decide

lemma oneLine_zeros {n} : OneLine (List.replicate n '0') := by
  intro c hc
  rw [List.eq_of_mem_replicate hc]
  decide

/-- A written integer has no end of a line. -/
lemma oneLine_intText {n} : OneLine (Number.intText n) := by
  rw [Number.intText]
  split
  · exact .cons (by decide) oneLine_natText
  · exact oneLine_natText

/-- A decimal without an exponent has no end of a line. -/
lemma oneLine_positional {d : Number.Decimal} : OneLine (d.positional true) := by
  have digits : OneLine d.text := oneLine_natText
  rw [Number.Decimal.positional]
  split
  · exact (digits.append oneLine_zeros).append (by decide)
  · simp only
    split
    · refine .append (fun c hc => digits c (List.mem_of_mem_take hc)) (.cons (by decide) ?_)
      exact fun c hc => digits c (List.mem_of_mem_drop hc)
    · exact .cons (by decide) (.cons (by decide) (oneLine_zeros.append digits))

/-- A decimal with an exponent has no end of a line. -/
lemma oneLine_scientific {d : Number.Decimal} : OneLine d.scientific := by
  have digits : OneLine d.text := oneLine_natText
  have exponent : OneLine ('e' :: (if d.magnitude < 0 then '-' else '+') ::
      Number.natText d.magnitude.natAbs) := by
    refine .cons (by decide) (.cons ?_ oneLine_natText)
    split <;> decide
  rw [Number.Decimal.scientific]
  refine .append ?_ exponent
  split
  · next first second rest h =>
    rw [h] at digits
    refine .cons (digits first List.mem_cons_self) (.cons (by decide) ?_)
    exact fun c hc => digits c (List.mem_cons_of_mem first hc)
  · exact digits

/-- A number that is written as a fraction has no end of a line. -/
lemma oneLine_fractionText {x} : OneLine (Number.fractionText x) := by
  rw [Number.fractionText]
  split
  · decide
  · decide
  · split
    · exact oneLine_signText.append (by decide)
    · refine oneLine_signText.append ?_
      split
      · exact oneLine_positional
      · exact oneLine_scientific

/-- A leaf is written in one line. -/
lemma oneLine_toJson {leaf : Scalar} {level} : OneLine (leaf.toJson.prettyChars level) := by
  cases leaf with
  | text s => exact oneLine_quoted
  | number x =>
    rw [Scalar.toJson]
    split
    · exact oneLine_intText
    · split
      · exact oneLine_fractionText
      · exact (by decide : OneLine ['n', 'u', 'l', 'l'])

/-- The line of a field goes on with the other fields. -/
lemma laid_prettyFields_cons {level key} {value : Json} {fields}
    (hv : Laid (value.prettyChars level)) (hf : Laid (prettyFields level fields)) :
    Laid (prettyFields level ((key, value) :: fields)) := by
  have hfield : Laid (newLine level ++ quoted key ++ ':' :: ' ' :: value.prettyChars level) := by
    have hkey : Laid (key.toList.flatMap escapeChar ++ ['\x22']) :=
      .of_oneLine fun c hc => @oneLine_quoted key c (List.mem_cons_of_mem _ hc)
    have := hkey.append (.cons (c := ':') (by decide) (.cons (c := ' ') (by decide) hv))
    simpa [newLine, quoted] using Laid.newLine (n := 2 * level) (c := '\x22') rfl this
  cases fields with
  | nil => exact hfield
  | cons field fields => exact hfield.append (.cons (by decide) hf)

/-- An object is laid out in lines if its fields are. -/
lemma laid_prettyChars_obj {level} {fields : List (String × Json)}
    (h : Laid (prettyFields (level + 1) fields)) : Laid (prettyChars level (.obj fields)) := by
  cases fields with
  | nil =>
    rw [prettyChars]
    exact .of_oneLine (by decide)
  | cons field fields =>
    have hclose : Laid (newLine level ++ ['\x7d']) := .newLine (n := 2 * level) rfl .nil
    rw [prettyChars, List.append_assoc]
    · exact .cons (by decide) (h.append hclose)
    · rintro ⟨⟩

/-- The fields of a tree are laid out in lines. -/
lemma laid_toFields {tree : Tree} {level} : Laid (prettyFields level tree.toFields) := by
  induction tree generalizing level with
  | nil => exact .nil
  | leaf key value more ih => exact laid_prettyFields_cons (.of_oneLine oneLine_toJson) ih
  | table key sub more ihsub ih => exact laid_prettyFields_cons (laid_prettyChars_obj ihsub) ih

end Json

namespace State

/-- A state is written between braces. -/
lemma prettyChars_ends {state : State} :
    ∃ cs ds, state.toJson.prettyChars 0 = '\x7b' :: cs ∧
      state.toJson.prettyChars 0 = ds ++ ['\x7d'] := by
  rw [toJson]
  cases state.tree.toFields with
  | nil => exact ⟨['\x7d'], ['\x7b'], rfl, rfl⟩
  | cons field fields =>
    refine ⟨_, '\x7b' :: (Json.prettyFields 1 (field :: fields) ++ ['\n']), rfl, ?_⟩
    simp [Json.prettyChars, Json.newLine]

/-- A state is written in lines of a block of code. -/
lemma enclosed_prettyChars {state : State} : Enclosed (state.toJson.prettyChars 0 ++ ['\n']) := by
  have hlaid : Laid (state.toJson.prettyChars 0) := Json.laid_prettyChars_obj Json.laid_toFields
  obtain ⟨cs, -, e, -⟩ := @prettyChars_ends state
  rw [e] at hlaid ⊢
  cases hlaid with
  | cons _ hcs => exact @Laid.enclosed _ 0 '\x7b' [] hcs rfl (by decide)

end State

/-- The block of an action that keeps no text holds its state. -/
lemma Action.blockText_eq {action : Action} (h : action.source = none) :
    Text.dropEndWhile (· == '\n') action.blockText = action.state.toJson.prettyChars 0 := by
  obtain ⟨-, ds, -, e⟩ := @State.prettyChars_ends action.state
  rw [blockText, h]
  simp only
  rw [e, Text.dropEndWhile, List.reverse_append, List.reverse_singleton, List.singleton_append,
    List.dropWhile_cons_of_neg (by decide), List.reverse_cons, List.reverse_reverse]

/-- A plain action is written as a block with its state. -/
lemma Action.markdown_of_isPlain {action : Action} (h : action.isPlain = true) :
    action.markdown = "\x60\x60\x60json\n".toList ++ action.state.toJson.prettyChars 0 ++
      "\n\x60\x60\x60".toList := by
  simp only [isPlain, Bool.and_eq_true, Option.isNone_iff_eq_none] at h
  rw [← Action.blockText_eq h.1.2]
  rfl

/-- A line is the first of the lines of a text that starts with it. -/
lemma Text.linesKept_line {cs rest} (h : '\n' ∉ cs) :
    linesKept (cs ++ '\n' :: rest) = (cs ++ ['\n']) :: linesKept rest := by
  induction cs with
  | nil => rw [List.nil_append, linesKept, if_pos rfl, List.nil_append]
  | cons c cs ih =>
    rw [List.mem_cons, not_or] at h
    rw [List.cons_append, linesKept, if_neg (Ne.symm h.1), ih h.2]
    rfl

/-- A line that nothing follows is the only line of a text. -/
lemma Text.linesKept_last {c cs} (h : '\n' ∉ c :: cs) : linesKept (c :: cs) = [c :: cs] := by
  induction cs generalizing c with
  | nil => rw [linesKept, if_neg (Ne.symm (List.ne_of_not_mem_cons h)), linesKept]
  | cons d cs ih =>
    rw [linesKept, if_neg (Ne.symm (List.ne_of_not_mem_cons h)), ih (List.not_mem_of_not_mem_cons h)]

namespace Markup

/-- An indented line of a block of code does not say what is wrong with the block. -/
lemma dropPrefix?_line {n c cs} (hc : isContentStart c = true) :
    Text.dropPrefix? actionErrorStart.toList (List.replicate n ' ' ++ c :: cs) = none := by
  cases n with
  | zero => exact if_neg (Text.ne_of_kind hc rfl).symm
  | succ n => rfl

/-- An indented line has no line feed in it. -/
lemma not_mem_line {n cs} (h : OneLine cs) : '\n' ∉ List.replicate n ' ' ++ cs := by
  rw [List.mem_append, not_or]
  exact ⟨fun h => absurd (List.eq_of_mem_replicate h) (by decide), fun hmem => (h _ hmem).1 rfl⟩

/-- A line of a block of code is not left out. -/
lemma withoutErrors_line {n c cs rest} (hc : isContentStart c = true) (hcs : OneLine (c :: cs)) :
    withoutErrors (List.replicate n ' ' ++ c :: cs ++ '\n' :: rest) =
      List.replicate n ' ' ++ c :: cs ++ '\n' :: withoutErrors rest := by
  have hstart := @dropPrefix?_line n c (cs ++ ['\n']) hc
  rw [← List.cons_append, ← List.append_assoc] at hstart
  rw [withoutErrors, Text.linesKept_line (not_mem_line hcs),
    List.filter_cons_of_pos (by rw [hstart]; rfl), List.flatten_cons, List.append_assoc,
    List.singleton_append]
  rfl

/-- No line of a block of code is left out, whatever comes after it. -/
lemma withoutErrors_append {cs rest} (h : Enclosed cs) :
    withoutErrors (cs ++ rest) = cs ++ withoutErrors rest := by
  induction h with
  | nil => rfl
  | line hc hcs _ ih =>
    rw [List.append_assoc, List.cons_append, withoutErrors_line hc hcs, ih]
    simp

/-- A last line is not left out, be it one without a line feed. -/
lemma withoutErrors_last {n c cs} (hc : isContentStart c = true) (hcs : OneLine (c :: cs)) :
    withoutErrors (List.replicate n ' ' ++ c :: cs) = List.replicate n ' ' ++ c :: cs := by
  obtain ⟨d, ds, e⟩ : ∃ d ds, List.replicate n ' ' ++ c :: cs = d :: ds :=
    List.exists_cons_of_ne_nil (List.append_ne_nil_of_right_ne_nil _ (List.cons_ne_nil c cs))
  have hline := @not_mem_line n _ hcs
  have hstart := @dropPrefix?_line n c cs hc
  rw [e] at hline hstart
  rw [e, withoutErrors, Text.linesKept_last hline, List.filter_cons_of_pos (by rw [hstart]; rfl)]
  exact List.append_nil _

/-- No line is left out of a started line with what is laid out behind it. -/
lemma Laid.withoutErrors_eq {n c text cs} (h : Laid cs) (hc : isContentStart c = true)
    (ht : OneLine (c :: text)) :
    withoutErrors (List.replicate n ' ' ++ c :: text ++ cs) =
      List.replicate n ' ' ++ c :: text ++ cs := by
  obtain ⟨lines, m, d, more, hlines, hd, hmore, e⟩ := h.exists_last hc ht
  rw [e, withoutErrors_append hlines, withoutErrors_last hd hmore]

/-- No line of a written state is left out. -/
lemma withoutErrors_prettyChars {state : State} {ending} (h : ending = [] ∨ ending = ['\n']) :
    withoutErrors (state.toJson.prettyChars 0 ++ ending) = state.toJson.prettyChars 0 ++ ending := by
  obtain rfl | rfl := h
  · have hlaid : Laid (state.toJson.prettyChars 0) := Json.laid_prettyChars_obj Json.laid_toFields
    obtain ⟨cs, -, e, -⟩ := @State.prettyChars_ends state
    rw [List.append_nil]
    rw [e] at hlaid ⊢
    cases hlaid with
    | cons _ hcs => exact @Laid.withoutErrors_eq 0 '\x7b' [] cs hcs rfl (by decide)
  · have := @withoutErrors_append _ [] (@State.enclosed_prettyChars state)
    rw [List.append_nil] at this
    exact this.trans (List.append_nil _)

/-- A plain action is read off its block. -/
lemma actionOf_prettyChars {action : Action} (h : action.isPlain = true) :
    actionOf (action.state.toJson.prettyChars 0 ++ ['\n']) = action := by
  obtain ⟨state, audit, source, error⟩ := action
  simp only [Action.isPlain, Bool.and_eq_true, Option.isNone_iff_eq_none] at h
  obtain ⟨⟨⟨hstate, rfl⟩, rfl⟩, rfl⟩ := h
  rw [actionOf, withoutErrors_prettyChars (.inr rfl)]
  simp only [State.readRelaxed_prettyChars hstate]
  rfl

end Markup

section Flowchart

/-- The label of an arrow has no end of a line if the text has none. -/
lemma oneLine_flowchartLabel {text : String} (h : OneLine text.toList) :
    OneLine (flowchartLabel text).toList := by
  rw [flowchartLabel, String.toList_ofList, Text.replaceChar]
  intro c hc
  obtain ⟨d, hd, hmem⟩ := List.mem_flatMap.1 hc
  split at hmem
  · exact (by decide : OneLine "#quot;".toList) c hmem
  · exact h c (List.mem_singleton.1 hmem ▸ hd)

/-- The name of a section may stand at the start of a line. -/
lemma isContentStart_of_isName {cs} (h : Text.isName cs = true) :
    ∃ c ds, cs = c :: ds ∧ isContentStart c = true := by
  obtain ⟨c, ds, rfl⟩ := List.exists_cons_of_ne_nil (Text.plain_of_isName h).ne
  refine ⟨c, ds, rfl, ?_⟩
  obtain hc | hc := Text.isName_chars h c List.mem_cons_self
  · exact Text.forall_isLower (by decide) hc
  · exact Text.forall_isDigit (by decide) hc

/-- A line that starts with four spaces and the name of a section. -/
lemma enclosed_indented {id text : List Char} (hid : Text.isName id = true) (ht : OneLine text) :
    Enclosed ([' ', ' ', ' ', ' '] ++ id ++ text ++ ['\n']) := by
  have hline := OneLine.of_plain (Text.plain_of_isName hid)
  obtain ⟨c, ds, rfl, hc⟩ := isContentStart_of_isName hid
  have := Enclosed.line (n := 4) hc (hline.append ht) .nil
  simpa using this

/-- The line of an arrow is a line of a block of code. -/
lemma enclosed_flowchartArrow {id arrow label target : String} (hid : Text.isName id.toList = true)
    (harrow : OneLine arrow.toList) (hlabel : OneLine label.toList)
    (htarget : OneLine target.toList) :
    Enclosed (flowchartArrow id arrow label target).toList := by
  have htext : OneLine (' ' :: (arrow.toList ++ '|' :: '\x22' :: ((flowchartLabel label).toList ++
      '\x22' :: '|' :: ' ' :: target.toList))) := by
    refine .cons (by decide) (harrow.append (.cons (by decide) (.cons (by decide) (.append ?_ ?_))))
    · exact oneLine_flowchartLabel hlabel
    · exact .cons (by decide) (.cons (by decide) (.cons (by decide) htarget))
  have := enclosed_indented hid htext
  rw [show flowchartArrow id arrow label target = "    " ++ id ++ " " ++ arrow ++ "|\x22" ++
    flowchartLabel label ++ "\x22| " ++ target ++ "\n" from rfl]
  simpa using this

/-- A target has no end of a line. -/
lemma oneLine_of_isTarget {cs} (h : Text.isTarget cs = true) : OneLine cs :=
  .of_address (isAddressChar_of_isTarget h)

/-- The section that a target names has no end of a line. -/
lemma oneLine_targetName {target : String} (h : Text.isTarget target.toList = true) :
    OneLine (Part.targetName target).toList := by
  have htarget := oneLine_of_isTarget h
  rw [Part.targetName]
  split
  · next e =>
    rw [e] at htarget
    rw [String.toList_ofList]
    exact fun c hc => htarget c (List.mem_cons_of_mem _ hc)
  · exact htarget

/-- A comparison has no end of a line. -/
lemma oneLine_of_isComparison {cs} (h : Text.isComparison cs = true) : OneLine cs := by
  obtain ⟨name, hname, rfl⟩ := Text.exists_of_isComparison h
  exact .cons (by decide) (.append (.of_plain (Text.plain_of_isName hname)) (by decide))

/-- The section that a plain part leads to has no end of a line in its name. -/
lemma oneLine_linkTarget? {part : Part} {target} (h : part.isSimple = true)
    (ht : part.linkTarget? = some target) : OneLine target.toList := by
  cases part with
  | link l =>
    simp only [Part.isSimple, Bool.and_eq_true] at h
    obtain rfl := Option.some.inj ht
    exact oneLine_targetName h.1.2
  | navigation text target' =>
    simp only [Part.isSimple, Bool.and_eq_true] at h
    obtain rfl := Option.some.inj ht
    exact oneLine_targetName h.2
  | _ => cases ht

/-- The arrow of a plain part or a header is a line of a block of code, or nothing. -/
lemma enclosed_flowchartLine {dialect id} {part : Part} (hid : Text.isName id.toList = true)
    (h : part.isPlain dialect = true ∨ ∃ text, part = .header text) :
    Enclosed (part.flowchartLine id).toList := by
  obtain h | ⟨text, rfl⟩ := h
  · cases part with
    | link l =>
      simp only [Part.isPlain, Part.isSimple, Bool.and_eq_true] at h
      exact enclosed_flowchartArrow hid (by decide) (.of_plain (Text.plain_of_isProse h.1.1))
        (oneLine_targetName h.1.2)
    | navigation text target =>
      simp only [Part.isPlain, Part.isSimple, Bool.and_eq_true] at h
      exact enclosed_flowchartArrow hid (by decide) (.of_plain (Text.plain_of_isProse h.1))
        (oneLine_targetName h.2)
    | condition c whenTrue whenFalse =>
      simp only [Part.isPlain, Condition.isPlain, Bool.and_eq_true] at h
      rw [Part.flowchartLine]
      split
      · next target e =>
        obtain ⟨part, hmem, htarget⟩ := List.exists_of_findSome?_eq_some e
        exact enclosed_flowchartArrow hid (by decide) (oneLine_of_isComparison h.1.1.1.1.1)
          (oneLine_linkTarget? (List.all_eq_true.1 h.1.2 part hmem) htarget)
      · exact .nil
    | _ => exact .nil
  · exact .nil

/-- The parts of a plain section are plain, or repeat its heading. -/
lemma Section.isPlain_parts {dialect} {s : Section} (h : s.isPlain dialect = true) :
    ∀ part ∈ s.parts, part.isPlain dialect = true ∨ ∃ text, part = .header text := by
  rw [isPlain, Bool.and_eq_true] at h
  intro part hpart
  have hall := List.all_eq_true.1 h.2
  unfold shownParts? at hall
  split at hall
  · next text parts e =>
    split at hall
    · rw [e] at hpart
      obtain rfl | hpart := List.mem_cons.1 hpart
      · exact .inr ⟨text, rfl⟩
      · exact .inl (hall part hpart)
    · exact .inl (hall part hpart)
  · exact .inl (hall part hpart)

/-- Blocks of lines one after the other are a block of lines. -/
lemma Markup.Enclosed.flatMap {α : Type} {xs : List α} {f : α → List Char}
    (h : ∀ x ∈ xs, Enclosed (f x)) : Enclosed (xs.flatMap f) := by
  induction xs with
  | nil => exact .nil
  | cons x xs ih =>
    rw [List.flatMap_cons]
    exact (h x List.mem_cons_self).append (ih fun y hy => h y (List.mem_cons_of_mem x hy))

/-- The signs behind the heading of a section. -/
def Section.flowchartMarks (s : Section) : String :=
  (if s.hasAction then " ⭐" else "") ++ (if s.hasCondition then " ⎇" else "")

/-- The lines of a section are its heading, its place in the document and its arrows. -/
lemma Section.flowchartLines_eq {s : Section} :
    s.flowchartLines =
      "    " ++ s.id ++ "[\x22" ++ flowchartLabel s.heading ++ s.flowchartMarks ++ "\x22]\n" ++
        "    click " ++ s.id ++ " \x22#" ++ s.id ++ "\x22\n" ++
        String.join (s.parts.map (Part.flowchartLine s.id)) :=
  rfl

/-- The lines of a plain section are lines of a block of code. -/
lemma Section.enclosed_flowchartLines {dialect} {s : Section} (h : s.isPlain dialect = true) :
    Enclosed s.flowchartLines.toList := by
  have hparts := Section.isPlain_parts h
  rw [isPlain, Bool.and_eq_true, Bool.and_eq_true] at h
  have hid := h.1.1
  have hid' := OneLine.of_plain (Text.plain_of_isName hid)
  have hheading := oneLine_flowchartLabel (.of_plain (Text.plain_of_isProse h.1.2))
  have hmarks : OneLine s.flowchartMarks.toList := by
    rw [flowchartMarks]
    cases s.hasAction <;> cases s.hasCondition <;> decide
  have htext : OneLine ('[' :: '\x22' :: ((flowchartLabel s.heading).toList ++
      (s.flowchartMarks.toList ++ ['\x22', ']']))) :=
    .cons (by decide) (.cons (by decide) (hheading.append (hmarks.append (by decide))))
  have hnode := enclosed_indented hid htext
  have hlink : OneLine ('c' :: ("lick ".toList ++
      (s.id.toList ++ (" \x22#".toList ++ (s.id.toList ++ ['\x22']))))) :=
    .cons (by decide) (.append (by decide) (hid'.append (.append (by decide)
      (hid'.append (by decide)))))
  have hclick : Enclosed _ := .line (n := 4) rfl hlink .nil
  have harrows : Enclosed (String.join (s.parts.map (Part.flowchartLine s.id))).toList := by
    rw [String.toList_join, List.flatMap_map]
    exact .flatMap fun part hpart => enclosed_flowchartLine hid (hparts part hpart)
  have := (hnode.append hclick).append harrows
  rw [flowchartLines_eq]
  simpa using this

/-- The flowchart of plain sections is lines of a block of code. -/
lemma Story.enclosed_flowchart {dialect} {story : Story}
    (h : ∀ s ∈ story.sections, s.isPlain dialect = true) : Enclosed story.flowchart.toList := by
  have hfirst : Enclosed "flowchart TD\n".toList :=
    @Enclosed.line 0 'f' "lowchart TD".toList [] rfl (by decide) .nil
  rw [flowchart, String.toList_append, String.toList_join, List.flatMap_map]
  exact hfirst.append (.flatMap fun s hs => Section.enclosed_flowchartLines (h s hs))

end Flowchart

end Gamebook
