import Gamebook.Proofs.BlockText
import Mathlib.Logic.Function.Iterate

/-!
# Rejected blocks

A block of code that is no state is kept, with a line after it that says what is wrong. This line is
left out when the block is read again, so from then on the block is written and read as the same
action, whatever the reader of states has to say about it. Main definitions: `Text.IsLine`,
`Markup.actionBy`, `Action.fence`. Main statement: `Markup.rejected_block_settles`.
-/

namespace Gamebook

namespace Text

/-- Whether a text is a line with the line feed that ends it. -/
def IsLine (line : List Char) : Prop :=
  ∃ text, '\n' ∉ text ∧ line = text ++ ['\n']

/-- A text that is empty or ends with a line feed consists of lines that are ended. -/
lemma exists_lines {cs : List Char} (h : cs = [] ∨ cs.getLast? = some '\n') :
    ∃ ls : List (List Char), (∀ line ∈ ls, IsLine line) ∧ cs = ls.flatten := by
  induction cs with
  | nil => exact ⟨[], List.forall_mem_nil _, rfl⟩
  | cons c cs ih =>
    have hlast := h.resolve_left (List.cons_ne_nil c cs)
    have hrest : cs = [] ∨ cs.getLast? = some '\n' := by
      cases cs with
      | nil => exact .inl rfl
      | cons d ds => exact .inr (List.getLast?_cons_cons.symm.trans hlast)
    obtain ⟨ls, hls, rfl⟩ := ih hrest
    by_cases hc : c = '\n'
    · exact ⟨[c] :: ls, List.forall_mem_cons.2 ⟨⟨[], List.not_mem_nil, by rw [hc]; rfl⟩, hls⟩, rfl⟩
    -- any other character belongs to the first of the lines after it
    cases ls with
    | nil => exact absurd (Option.some.inj hlast) hc
    | cons line ls =>
      obtain ⟨⟨text, htext, rfl⟩, hmore⟩ := List.forall_mem_cons.1 hls
      have hline : IsLine (c :: (text ++ ['\n'])) :=
        ⟨c :: text, List.not_mem_cons_of_ne_of_not_mem (Ne.symm hc) htext, rfl⟩
      exact ⟨(c :: (text ++ ['\n'])) :: ls, List.forall_mem_cons.2 ⟨hline, hmore⟩, rfl⟩

/-- Lines that are ended are the first lines of a text that starts with them. -/
lemma linesKept_append {ls : List (List Char)} {rest} (h : ∀ line ∈ ls, IsLine line) :
    linesKept (ls.flatten ++ rest) = ls ++ linesKept rest := by
  induction ls with
  | nil => rfl
  | cons line ls ih =>
    obtain ⟨⟨text, htext, rfl⟩, hls⟩ := List.forall_mem_cons.1 h
    rw [List.flatten_cons, List.append_assoc, List.append_assoc, List.singleton_append,
      linesKept_line htext, ih hls, List.cons_append]

/-- Lines that are ended are the lines of the text that they make up. -/
lemma linesKept_flatten {ls : List (List Char)} (h : ∀ line ∈ ls, IsLine line) :
    linesKept ls.flatten = ls := by
  have := @linesKept_append ls [] h
  rwa [List.append_nil, linesKept, List.append_nil] at this

/-- The last of some lines is ended, if there is one. -/
lemma getLast?_flatten {ls : List (List Char)} (h : ∀ line ∈ ls, IsLine line) :
    ls.flatten = [] ∨ ls.flatten.getLast? = some '\n' := by
  obtain rfl | ⟨ls, line, rfl⟩ := ls.eq_nil_or_concat
  · exact .inl rfl
  · obtain ⟨text, -, rfl⟩ := h line (by simp)
    exact .inr (by simp)

/-- Nothing is dropped from the end of a text whose last character stays. -/
lemma dropEndWhile_append {p : Char → Bool} {cs ds : List Char} (hne : ds ≠ [])
    (h : ∀ c ∈ ds, p c = false) : dropEndWhile p (cs ++ ds) = cs ++ ds := by
  obtain ⟨ds, d, rfl⟩ := ds.eq_nil_or_concat.resolve_left hne
  have hd := h d (by simp)
  rw [List.concat_eq_append, ← List.append_assoc, dropEndWhile, List.reverse_append,
    List.reverse_singleton, List.singleton_append,
    List.dropWhile_cons_of_neg (ne_true_of_eq_false hd), List.reverse_cons, List.reverse_reverse]

lemma not_mem_spacedFrom {inRun : Bool} {cs : List Char} : '\n' ∉ spacedFrom inRun cs := by
  induction cs generalizing inRun with
  | nil => exact List.not_mem_nil
  | cons c cs ih =>
    rw [spacedFrom]
    split
    · split
      · exact ih
      · exact List.not_mem_cons_of_ne_of_not_mem (by decide) ih
    · next hc =>
      refine List.not_mem_cons_of_ne_of_not_mem ?_ ih
      rintro rfl
      exact hc rfl

/-- The words of a text with spaces between them are one line. -/
lemma not_mem_singleSpaced {cs : List Char} : '\n' ∉ singleSpaced cs :=
  not_mem_spacedFrom

end Text

namespace Markup

/-- The line that says what is wrong with a block. -/
def errorText (message : String) : String :=
  actionErrorStart ++ " " ++ .ofList (Text.singleSpaced message.toList)

/-- The action that keeps the lines of a block and what is wrong with them. -/
def keptBlock (lines : List Char) (message : String) : Action where
  state := .empty
  audit := none
  source := some (.ofList lines)
  error := some (errorText message)

/-- The action of a block, where a reader gives the state of its lines or says what is wrong. -/
def actionBy (read : List Char → Except String State) (content : List Char) : Action :=
  match read (withoutErrors content) with
  | .ok state => .setting state
  | .error message => keptBlock (withoutErrors content) message

/-- The reader of relaxed documents, with the wording of what is wrong. -/
def readWorded (lines : List Char) : Except String State :=
  (State.readRelaxed lines).mapError (·.message .relaxed)

/-- The blocks of stories are read by the reader of relaxed documents. -/
lemma actionOf_eq_actionBy : actionOf = actionBy readWorded := by
  funext content
  rw [actionOf, actionBy, readWorded]
  cases State.readRelaxed (withoutErrors content) <;> rfl

/-- Whether a line is not one that says what is wrong with a block. -/
def isSource (line : List Char) : Bool :=
  (Text.dropPrefix? actionErrorStart.toList line).isNone

end Markup

open Markup

/-- What stands between the fences of the block of an action: its lines, the last of them ended. -/
def Action.fence (action : Action) : List Char :=
  Text.dropEndWhile (· == '\n') action.blockText ++ ['\n']

/-- The block of an action has its lines between its fences. -/
lemma Action.markdown_eq (action : Action) :
    action.markdown = "\x60\x60\x60json\n".toList ++ action.fence ++ "\x60\x60\x60".toList := by
  have hmarkdown : action.markdown = "\x60\x60\x60json\n".toList ++
      Text.dropEndWhile (· == '\n') action.blockText ++ "\n\x60\x60\x60".toList := rfl
  have hstop : "\n\x60\x60\x60".toList = ['\n'] ++ "\x60\x60\x60".toList := rfl
  rw [hmarkdown, hstop, fence, List.append_assoc, List.append_assoc, List.append_assoc]

namespace Markup

variable {ls : List (List Char)} {message : String}

lemma toList_errorText :
    (errorText message).toList =
      actionErrorStart.toList ++ ' ' :: Text.singleSpaced message.toList := by
  have hstart : (actionErrorStart ++ " ").toList = actionErrorStart.toList ++ [' '] := by decide
  rw [errorText, String.toList_append, hstart, String.toList_ofList, List.append_assoc,
    List.singleton_append]

/-- What says what is wrong with a block is one line. -/
lemma not_mem_errorText : '\n' ∉ (errorText message).toList := by
  have hstart : '\n' ∉ actionErrorStart.toList := by decide
  rw [toList_errorText, List.mem_append, List.mem_cons]
  rintro (h | h | h)
  · exact hstart h
  · cases h
  · exact Text.not_mem_singleSpaced h

/-- The line that says what is wrong with a block is left out of it. -/
lemma isSource_errorText : isSource ((errorText message).toList ++ ['\n']) = false := by
  have hdrop := Text.dropPrefix?_eq_some_iff.2 (List.append_assoc actionErrorStart.toList
    (' ' :: Text.singleSpaced message.toList) ['\n'])
  rw [isSource, toList_errorText, hdrop]
  rfl

/-- The lines of a block without those that say what is wrong. -/
lemma withoutErrors_flatten (h : ∀ line ∈ ls, Text.IsLine line) :
    withoutErrors ls.flatten = (ls.filter isSource).flatten := by
  rw [withoutErrors, Text.linesKept_flatten h]
  rfl

/-- A block that is kept has its lines and the one that says what is wrong between its fences. -/
lemma fence_keptBlock (h : ∀ line ∈ ls, Text.IsLine line) :
    (keptBlock ls.flatten message).fence =
      ls.flatten ++ ((errorText message).toList ++ ['\n']) := by
  have htext : (keptBlock ls.flatten message).blockText =
      ls.flatten ++ (errorText message).toList := by
    have hended : (ls.flatten.isEmpty || ls.flatten.getLast? == some '\n') = true := by
      rw [Bool.or_eq_true, List.isEmpty_iff, beq_iff_eq]
      exact Text.getLast?_flatten h
    simp only [Action.blockText, keptBlock, String.toList_ofList, hended, if_true]
    rfl
  -- the last line does not end with a line feed of its own, so nothing is cut off
  have hne : (errorText message).toList ≠ [] := by
    rw [toList_errorText]
    exact List.append_ne_nil_of_right_ne_nil _ (List.cons_ne_nil _ _)
  have hstays : ∀ c ∈ (errorText message).toList, (c == '\n') = false := by
    rintro c hc
    exact beq_eq_false_iff_ne.2 fun e => not_mem_errorText (e ▸ hc)
  rw [Action.fence, htext, Text.dropEndWhile_append hne hstays, List.append_assoc]

/-- The lines between the fences of a block that is kept. -/
lemma linesKept_fence (h : ∀ line ∈ ls, Text.IsLine line) :
    Text.linesKept (keptBlock ls.flatten message).fence =
      ls ++ [(errorText message).toList ++ ['\n']] := by
  have hlast := @Text.linesKept_flatten [(errorText message).toList ++ ['\n']]
    (List.forall_mem_singleton.2 ⟨_, not_mem_errorText, rfl⟩)
  rw [List.flatten_cons, List.flatten_nil, List.append_nil] at hlast
  rw [fence_keptBlock h, Text.linesKept_append h, hlast]

/-- What is read of a block that is kept is what was kept of it. -/
lemma withoutErrors_fence (h : ∀ line ∈ ls, Text.IsLine line) (hsource : ls.all isSource = true) :
    withoutErrors (keptBlock ls.flatten message).fence = ls.flatten := by
  have hkept : ls.filter isSource = ls := List.filter_eq_self.2 (List.all_eq_true.1 hsource)
  have hlines : withoutErrors (keptBlock ls.flatten message).fence =
      ((Text.linesKept (keptBlock ls.flatten message).fence).filter isSource).flatten := rfl
  rw [hlines, linesKept_fence h, List.filter_append, hkept,
    List.filter_cons_of_neg (ne_true_of_eq_false isSource_errorText), List.filter_nil,
    List.append_nil]

/--
A block whose lines, those aside that say what was wrong with them, are not read as a state is an
action that keeps these lines, all of them and in order, with the message and without any state. The
block that is written for the action has these lines and one more, the message; it is read as the
same action, and so however often the action is written and read. This is so for any reader of
states and for any message of it, and the blocks of stories are read by one.
-/
theorem rejected_block_settles (read : List Char → Except String State) (content : List Char)
    (message : String) (hcontent : content = [] ∨ content.getLast? = some '\n')
    (hread : read (withoutErrors content) = .error message) :
    let action := actionBy read content
    let again : Action → Action := fun a => actionBy read a.fence
    actionOf = actionBy readWorded ∧
    action = keptBlock (withoutErrors content) message ∧
    action.markdown = "\x60\x60\x60json\n".toList ++ action.fence ++ "\x60\x60\x60".toList ∧
    Text.linesKept action.fence =
      (Text.linesKept content).filter isSource ++ [(errorText message).toList ++ ['\n']] ∧
    ∀ n, again^[n] action = action := by
  intro action again
  obtain ⟨ls, hls, rfl⟩ := Text.exists_lines hcontent
  have hkept : ∀ line ∈ ls.filter isSource, Text.IsLine line :=
    fun line hline => hls line (List.mem_of_mem_filter hline)
  have hsource : (ls.filter isSource).all isSource = true :=
    List.all_eq_true.2 fun line hline => (List.mem_filter.1 hline).2
  have haction : action = keptBlock (withoutErrors ls.flatten) message := by
    simp only [action, actionBy, hread]
  have hagain : again action = action := by
    rw [withoutErrors_flatten hls] at haction hread
    have hfence := @withoutErrors_fence _ message hkept hsource
    simp only [again, actionBy, haction, hfence, hread]
  refine ⟨actionOf_eq_actionBy, haction, action.markdown_eq, ?_, Function.iterate_fixed hagain⟩
  · rw [haction, withoutErrors_flatten hls, linesKept_fence hkept, Text.linesKept_flatten hls]

/-- A block with half of a character, an empty line, and what was wrong with it at other times. -/
def wellBlock : List Char :=
  "\x7bdepth: 0x10,\nJSON5: no brace\n\n  rope: \x27\\uD800\x27\x7d\nJSON5:\n".toList

/-- The block of a well is kept without what was wrong with it, and does not grow. -/
theorem rejected_block_settles_well :
    let lines := "\x7bdepth: 0x10,\n\n  rope: \x27\\uD800\x27\x7d\n".toList
    let message := "missing unicode trail surrogate"
    wellBlock.getLast? = some '\n' ∧ readWorded (withoutErrors wellBlock) = .error message ∧
    actionOf wellBlock = keptBlock lines message ∧
    ∀ n, (fun a => actionOf a.fence)^[n] (actionOf wellBlock) = actionOf wellBlock := by
  intro lines message
  have hended : wellBlock.getLast? = some '\n' := by decide +kernel
  have hread : readWorded (withoutErrors wellBlock) = .error message := by decide +kernel
  have hlines : withoutErrors wellBlock = lines := by decide +kernel
  obtain ⟨hof, hkept, -, -, hagain⟩ :=
    rejected_block_settles readWorded wellBlock message (.inr hended) hread
  rw [← hof] at hkept hagain
  rw [hlines] at hkept
  exact ⟨hended, hread, hkept, hagain⟩

end Markup

end Gamebook
