import Gamebook.Proofs.OutlineText

/-!
# Reading documents line by line

A text is read from outlines of one kind to outlines of another kind, whatever comes after it: the
texts of a document are put together like the statements of a program. The lines that parts are
written with are running text. Main definition: `Reads`.
-/

namespace Gamebook.Markup

/-- Whether there is no end of a line in a text. -/
def OneLine (cs : List Char) : Prop :=
  ∀ c ∈ cs, c ≠ '\n' ∧ c ≠ '\r'

instance (cs : List Char) : Decidable (OneLine cs) :=
  List.decidableBAll (fun c => c ≠ '\n' ∧ c ≠ '\r') cs

namespace OneLine

variable {c : Char} {cs ds : List Char}

/-- A text has no end of a line if its parts have none. -/
lemma append (hc : OneLine cs) (hd : OneLine ds) : OneLine (cs ++ ds) := by
  intro c hmem
  exact (List.mem_append.1 hmem).elim (hc c) (hd c)

/-- A text has no end of a line if its first character is none and the others are none. -/
lemma cons (hc : c ≠ '\n' ∧ c ≠ '\r') (hcs : OneLine cs) : OneLine (c :: cs) := by
  intro d hmem
  obtain rfl | hmem := List.mem_cons.1 hmem
  · exact hc
  · exact hcs d hmem

/-- Plain text has no end of a line. -/
lemma of_plain (h : Text.Plain cs) : OneLine cs :=
  fun c hc => ⟨Text.ne_of_kind (h.chars c hc) rfl, Text.ne_of_kind (h.chars c hc) rfl⟩

/-- An address has no end of a line. -/
lemma of_address (h : ∀ c ∈ cs, isAddressChar c = true) : OneLine cs :=
  fun c hc => ⟨Text.ne_of_kind (h c hc) rfl, Text.ne_of_kind (h c hc) rfl⟩

end OneLine

/-- A character that ends no line goes on with the line behind it, or is the last one of a text. -/
lemma linesFrom_cons {offset c cs} (hc : c ≠ '\n' ∧ c ≠ '\r') :
    linesFrom offset (c :: cs) =
      match linesFrom (offset + Text.charSize c) cs with
      | [] => [⟨offset, [c], [], true⟩]
      | line :: lines => { line with start := offset, text := c :: line.text } :: lines := by
  -- the equations of `linesFrom` would unfold the lines of the rest as well
  conv =>
    lhs
    unfold linesFrom
  split
  · next e => cases e
  · next e => exact (hc.2 (List.cons.inj e).1).elim
  · next e =>
    obtain ⟨rfl, rfl⟩ := List.cons.inj e
    refine (if_neg (not_or.2 hc)).trans ?_
    cases linesFrom (offset + Text.charSize c) cs <;> rfl

/-- A line is read off the start of a text. -/
lemma linesFrom_line {offset cs rest} (h : OneLine cs) :
    linesFrom offset (cs ++ '\n' :: rest) =
      textLine offset cs (startsBlank (linesFrom (offset + Text.byteSize cs + 1) rest)) ::
        linesFrom (offset + Text.byteSize cs + 1) rest := by
  induction cs generalizing offset with
  | nil =>
    rw [List.nil_append]
    cases rest <;> simp [linesFrom, Text.byteSize]
  | cons c cs ih =>
    have hcs : OneLine cs := fun d hd => h d (List.mem_cons_of_mem c hd)
    have hstop : offset + Text.charSize c + Text.byteSize cs = offset + Text.byteSize (c :: cs) :=
      Nat.add_assoc ..
    rw [List.cons_append, linesFrom_cons (h c List.mem_cons_self), ih hcs, hstop]

/-- Whether a text leads from outlines of one kind to outlines of another kind, whatever comes after
it. -/
def Reads (P : Outline → Prop) (cs : List Char) (Q : Outline → Prop) : Prop :=
  ∀ o offset rest, P o → ∃ o' offset', Q o' ∧
    (linesFrom offset (cs ++ rest)).foldl Outline.read o =
      (linesFrom offset' rest).foldl Outline.read o'

namespace Reads

variable {P P' Q Q' R : Outline → Prop} {cs ds : List Char}

/-- The outlines before a text may be restricted and those after it may be extended. -/
lemma imp (h : Reads P cs Q) (hP : ∀ o, P' o → P o) (hQ : ∀ o, Q o → Q' o) : Reads P' cs Q' := by
  intro o offset rest ho
  obtain ⟨o', offset', ho', e⟩ := h o offset rest (hP o ho)
  exact ⟨o', offset', hQ o' ho', e⟩

/-- No text changes no outline. -/
lemma nil (h : ∀ o, P o → Q o) : Reads P [] Q :=
  fun o offset _ ho => ⟨o, offset, h o ho, rfl⟩

/-- Texts are read one after the other. -/
lemma append (hc : Reads P cs Q) (hd : Reads Q ds R) : Reads P (cs ++ ds) R := by
  intro o offset rest ho
  obtain ⟨o', offset', ho', e⟩ := hc o offset (ds ++ rest) ho
  obtain ⟨o'', offset'', ho'', e'⟩ := hd o' offset' rest ho'
  exact ⟨o'', offset'', ho'', by rw [List.append_assoc, e, e']⟩

/-- A line is read as one step. -/
lemma line (hcs : OneLine cs)
    (h : ∀ o start beforeBlank, P o → Q (o.read (textLine start cs beforeBlank))) :
    Reads P (cs ++ ['\n']) Q := by
  intro o offset rest ho
  refine ⟨_, offset + Text.byteSize cs + 1, h o offset
    (startsBlank (linesFrom (offset + Text.byteSize cs + 1) rest)) ho, ?_⟩
  rw [List.append_assoc, List.singleton_append, linesFrom_line hcs, List.foldl_cons]

/-- A blank line is read as one step. -/
lemma blank (h : ∀ o start beforeBlank, P o → Q (o.read (blankLine start beforeBlank))) :
    Reads P ['\n'] Q :=
  @line _ _ [] (List.forall_mem_nil _) h

end Reads

/-- Whether a character may start a line of a block of code: it is no blank and does not start the
end of the block or a line that is left out of it. -/
def isContentStart (c : Char) : Bool :=
  c ∉ [' ', '\t', '\n', '\r', '\x60', 'J']

/-- The lines of a block of code. -/
inductive Enclosed : List Char → Prop where
  /-- There is no line. -/
  | nil : Enclosed []
  /-- A line with some indentation is before the others. -/
  | line {n c cs rest} (hc : isContentStart c = true) (hcs : OneLine (c :: cs))
      (h : Enclosed rest) :
      Enclosed (List.replicate n ' ' ++ c :: cs ++ '\n' :: rest)

namespace Enclosed

variable {cs ds : List Char}

/-- Lines may follow lines. -/
lemma append (hc : Enclosed cs) (hd : Enclosed ds) : Enclosed (cs ++ ds) := by
  induction hc with
  | nil => exact hd
  | @line n c cs rest hc hcs h ih =>
    rw [List.append_assoc, List.cons_append]
    exact .line hc hcs ih

/-- Lines of code are added to the open block. -/
lemma reads {ts info content} (h : Enclosed cs) :
    Reads (Fenced ts info content) cs (Fenced ts info (content ++ cs)) := by
  induction h generalizing content with
  | nil =>
    rw [List.append_nil]
    exact .nil fun _ => id
  | @line n c cs rest hc hcs h ih =>
    have hline : OneLine (List.replicate n ' ' ++ c :: cs) := by
      refine .append (fun d hd => ?_) hcs
      rw [List.eq_of_mem_replicate hd]
      decide
    have hfirst : ((List.replicate n ' ' ++ c :: cs).dropWhile
        fun c => c == ' ' || c == '\t').head? ≠ some '\x60' := by
      rw [List.dropWhile_append_of_pos, List.dropWhile_cons_of_neg]
      · exact fun e => Text.ne_of_kind hc rfl (Option.some.inj e)
      · simp [Text.ne_of_kind (d := ' ') hc rfl, Text.ne_of_kind (d := '\t') hc rfl]
      · intro d hd
        rw [List.eq_of_mem_replicate hd]
        rfl
    have hread : Reads (Fenced ts info content) (List.replicate n ' ' ++ c :: cs ++ ['\n'])
        (Fenced ts info (content ++ (List.replicate n ' ' ++ c :: cs ++ ['\n']))) :=
      .line hline fun o start beforeBlank ho => ho.line hfirst
    -- the line is added to the content, and the lines after it to both
    have := hread.append (@ih (content ++ (List.replicate n ' ' ++ c :: cs ++ ['\n'])))
    simpa only [List.append_assoc, List.singleton_append] using this

end Enclosed

/-- A label of text without signs ends before its closing bracket, unless it is too long. -/
lemma labelText?_inert {room text rest} (h : ∀ c ∈ text, isInert c = true) :
    labelText? room false (text ++ ']' :: rest) = none ∨
      ∃ label, labelText? room false (text ++ ']' :: rest) = some (label, rest) := by
  induction text generalizing room with
  | nil =>
    cases room with
    | zero => exact .inl rfl
    | succ room => exact .inr ⟨[], rfl⟩
  | cons c cs ih =>
    have hc := h c List.mem_cons_self
    have hescape : (c == '\\') = false := beq_eq_false_iff_ne.2 (Text.ne_of_kind hc rfl)
    cases room with
    | zero => exact .inl rfl
    | succ room =>
      rw [List.cons_append, labelText?, if_neg (Text.ne_of_kind hc rfl),
        if_neg (Text.ne_of_kind hc rfl), hescape]
      obtain e | ⟨label, e⟩ := @ih room fun d hd => h d (List.mem_cons_of_mem c hd)
      · exact .inl (by rw [e]; rfl)
      · exact .inr ⟨c :: label, by rw [e]; rfl⟩

/-- The text of a link starts no definition. -/
lemma definition?_labelText {text address rest} (h : Settled text) :
    definition? ('[' :: Inlines.labelText text address ++ rest) = none := by
  have hlabel : Inlines.labelText text address ++ rest =
      text ++ ']' :: '(' :: (address ++ ')' :: rest) := by
    simp [Inlines.labelText]
  rw [List.cons_append, hlabel, definition?, label?]
  -- after the label stands a round bracket and no colon
  obtain e | ⟨label, e⟩ := @labelText?_inert maxLabel text ('(' :: (address ++ ')' :: rest)) h.inert
  · rw [e]
    rfl
  · rw [e]
    simp only [Option.bind_eq_bind, Option.bind_some]
    split <;> rfl

end Gamebook.Markup
