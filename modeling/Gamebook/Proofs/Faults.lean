import Gamebook.Proofs.Contents

/-!
# Faults

What is wrong with a source is said twice: by the diagnostics, and by the parts that keep what could
not be understood. Both say the same. Each fault of a part is one diagnostic, in whatever section or
branch the part is, and each condition that is started is either closed or reported as open. Main
definitions: `Markup.Entry.faults`, `Markup.Draft.opened`. Main statements:
`Markup.Draft.faults_move`, `Markup.Draft.balance_move`, `Markup.faults_assemble`.
-/

namespace Gamebook

open Markup

namespace Markup

namespace Marker

/-- Whether a marker starts a condition. -/
def opens : Marker → Bool
  | opening _ => true
  | _ => false

/-- Whether a marker ends a condition. -/
def closes : Marker → Bool
  | closing => true
  | _ => false

/-- Whether a marker belongs to a condition. -/
def isSign : Marker → Bool
  | opening _ => true
  | otherwise => true
  | closing => true
  | _ => false

end Marker

namespace Problem

lemma isFault_of_error {problem : Problem} (h : (problem.severity == .error) = true) :
    problem.isFault = true := by
  cases problem with
  | noExpression => rfl
  | strayMarker code => rfl
  | noState message => rfl
  | _ => cases h

/-- Whether a problem is an end without a condition. -/
def isStrayEnd : Problem → Bool
  | strayMarker code => (Marker.ofCode code.toList).closes
  | _ => false

lemma isFault_of_isStrayEnd {problem : Problem} (h : problem.isStrayEnd = true) :
    problem.isFault = true := by
  cases problem with
  | strayMarker code => rfl
  | _ => cases h

lemma isFault_of_eq {problem : Problem} (h : (problem == .noMarker) = true) :
    problem.isFault = true := by
  obtain rfl := eq_of_beq h
  rfl

end Problem

/-- The meaning of a lexeme that is code. -/
def Lexeme.marker? (l : Lexeme) : Option Marker :=
  match l.token with
  | .code code => some (.ofCode code)
  | _ => none

end Markup

/-- Whether a condition keeps a sign that belongs to a condition. -/
def Condition.keepsSign (c : Condition) : Bool :=
  c.source.any fun code => (Marker.ofCode code.toList).isSign

lemma Condition.isError_fault {c : Condition} :
    (c.fault.severity == .error) = c.keepsSign ∧ (c.fault == .noMarker) = !c.keepsSign := by
  obtain ⟨expression, audit, source, error⟩ := c
  cases source with
  | none => exact ⟨rfl, rfl⟩
  | some code =>
    simp only [fault, keepsSign, Option.any_some]
    cases Marker.ofCode code.toList with
    | _ => exact ⟨rfl, rfl⟩

namespace Part

/-- Whether a part is an action with an error. -/
def isFaultyAction : Part → Bool
  | action a => a.error.isSome
  | _ => false

/-- Whether a part is a condition with an error that keeps a sign of a condition. -/
def isFaultySign : Part → Bool
  | condition c _ _ => c.error.isSome && c.keepsSign
  | _ => false

/-- Whether a part is a condition with an error that keeps anything else. -/
def isFaultyCode : Part → Bool
  | condition c _ _ => c.error.isSome && !c.keepsSign
  | _ => false

variable {part : Part}

/-- The errors among the faults are those of actions and signs, the other faults those of code. -/
lemma isError_fault? :
    part.fault?.any (·.severity == .error) = (part.isFaultyAction || part.isFaultySign) ∧
      part.fault?.any (· == .noMarker) = part.isFaultyCode := by
  cases part with
  | action a =>
    obtain ⟨state, audit, source, error⟩ := a
    cases error with
    | none => exact ⟨rfl, rfl⟩
    | some message => exact ⟨rfl, rfl⟩
  | condition c whenTrue whenFalse =>
    have sign := @Condition.isError_fault c
    obtain ⟨expression, audit, source, error⟩ := c
    cases error with
    | none => exact ⟨rfl, rfl⟩
    | some message => exact sign
  | _ => exact ⟨rfl, rfl⟩

lemma countP_errors {parts : List Part} :
    (parts.countP fun part => part.fault?.any (·.severity == .error)) =
      parts.countP isFaultyAction + parts.countP isFaultySign := by
  induction parts with
  | nil => rfl
  | cons part parts ih =>
    have apart : part.isFaultyAction = false ∨ part.isFaultySign = false := by
      cases part with
      | condition c whenTrue whenFalse => exact .inl rfl
      | _ => exact .inr rfl
    rw [List.countP_cons, List.countP_cons, List.countP_cons, ih, isError_fault?.1]
    obtain h | h := apart
    · rw [h, Bool.false_or, if_neg Bool.false_ne_true, Nat.add_zero, Nat.add_assoc]
    · rw [h, Bool.or_false, if_neg Bool.false_ne_true, Nat.add_zero, Nat.add_right_comm]

lemma fault?_alone : part.alone.fault? = part.fault? := by
  cases part <;> rfl

end Part

namespace Markup

namespace Entry

/-- The problems of an entry. -/
def faults (e : Entry) : List Problem :=
  e.contents.filterMap Part.fault?

lemma faults_of_contents {e : Entry} {part : Part} (h : e.contents = [part]) :
    e.faults = part.fault?.toList :=
  filterMap_contents h

lemma faults_kept {code span} :
    (Entry.kept code span).faults = [(Marker.ofCode code).fault (.ofList code)] := by
  rw [faults_of_contents rfl, Part.fault?_keptCode, Option.toList_some]

lemma faults_start {dialect level text anchor} :
    (Entry.start (startOf dialect level text anchor)).faults = [] :=
  filterMap_startOf rfl

/-- The start of a condition is at fault if it has no expression. -/
lemma faults_opening {code expression} (hm : Marker.ofCode code = .opening expression) :
    (Entry.opening (openingOf code expression)).faults =
      if expression = [] then [.noExpression] else [] := by
  cases expression with
  | nil =>
    have kept : (Entry.opening (openingOf code [])).faults =
        [(Marker.ofCode code).fault (.ofList code)] :=
      @faults_kept code ⟨0, 0⟩
    rw [kept, hm]
    rfl
  | cons c cs => rfl

/-- Whether an entry starts a condition. -/
def opens : Entry → Bool
  | opening _ => true
  | _ => false

/-- Whether an entry ends a condition. -/
def closes : Entry → Bool
  | closing => true
  | _ => false

end Entry

namespace Draft

variable {d d' : Draft} {es : List Entry}

/-- A move notes the faults of its entry. -/
lemma faults_move (h : Move d es d') : d'.faults = d.faults ++ es.flatMap Entry.faults := by
  cases h with
  | content he =>
    rw [List.flatMap_singleton, Entry.faults_of_contents (Entry.contents_of_content? he)]
    exact (faults_of_notes notes_emit).trans faults_note
  | opening =>
    rw [List.flatMap_singleton, Entry.faults_of_contents rfl]
    exact faults_note
  | otherwise => exact (List.append_nil _).symm
  | closing => exact (faults_of_notes notes_closeFrame).trans (List.append_nil _).symm
  | abandon =>
    rw [List.flatMap_nil, List.append_nil]
    exact (faults_of_notes notes_closeFrame).trans (faults_aside rfl)
  | aside hfault => exact (faults_aside hfault).trans (List.append_nil _).symm
  | title => exact (faults_of_notes notes_finishSection).trans (List.append_nil _).symm
  | start =>
    have finished : d.finishSection.faults = d.faults := faults_of_notes notes_finishSection
    rw [List.flatMap_singleton, Entry.faults_start, List.append_nil]
    exact finished

/-- Moves note the faults of their entries. -/
lemma faults_moves (h : Moves d es d') : d'.faults = d.faults ++ es.flatMap Entry.faults := by
  induction h with
  | refl => exact (List.append_nil _).symm
  | head first _ ih => rw [ih, faults_move first, List.flatMap_append, List.append_assoc]

/-- The number of open conditions. -/
def opened (d : Draft) : Nat :=
  d.frame.isSome.toNat

lemma opened_of_none (h : d.frame = none) : d.opened = 0 := by
  rw [opened, h]
  rfl

lemma balance_finishSection :
    d.finishSection.unclosed + d.finishSection.opened = d.unclosed + d.opened := by
  rw [unclosed_of_notes notes_finishSection, opened, frame_finishSection, ← opened]

/-- Of the conditions that are started, each is closed, reported as not closed, or open. -/
lemma balance_move (h : Move d es d') :
    d'.unclosed + es.countP Entry.closes + d'.opened =
      d.unclosed + es.countP Entry.opens + d.opened := by
  cases h with
  | @content e part span he =>
    have opened : ((d.note part span).emit part).opened = d.opened := by
      rw [Draft.opened, isSome_frame_emit, frame_note, ← Draft.opened]
    rw [(unclosed_of_notes notes_emit).trans unclosed_note, opened]
    cases e with
    | part p => rfl
    | kept code span => rfl
    | _ => cases he
  | opening hf =>
    rw [opened_of_none hf]
    exact congrArg (· + 1) unclosed_note
  | otherwise hf =>
    rw [opened, opened, hf]
    rfl
  | closing hf =>
    rw [unclosed_of_notes notes_closeFrame, opened_of_none frame_closeFrame, opened, hf]
    rfl
  | abandon hf =>
    rw [(unclosed_of_notes notes_closeFrame).trans unclosed_report_unclosed,
      opened_of_none frame_closeFrame, opened, hf]
    rfl
  | aside _ hproblem => exact congrArg (· + d.opened) (unclosed_report hproblem)
  | title => exact balance_finishSection
  | start => exact balance_finishSection

/-- Whatever is read, each condition is closed, reported as not closed, or open. -/
lemma balance_moves (h : Moves d es d') :
    d'.unclosed + es.countP Entry.closes + d'.opened =
      d.unclosed + es.countP Entry.opens + d.opened := by
  induction h with
  | refl => rfl
  | head first _ ih =>
    have step := balance_move first
    rw [List.countP_append, List.countP_append]
    omega

end Draft

section Lexemes

variable {dialect : Dialect} {before : Option Token} {isOpen : Bool} {l : Lexeme}
  {rest lexemes : List Lexeme} {e : Entry} {p : Entry → Bool}

/-- Whether an entry comes from code that marks no way on. -/
def Entry.isMark : Entry → Bool
  | kept .. => true
  | opening _ => true
  | otherwise => true
  | closing => true
  | _ => false

/-- Whether an entry comes from an end of a condition, be it kept. -/
def Entry.marksEnd : Entry → Bool
  | kept code _ => (Marker.ofCode code).closes
  | closing => true
  | _ => false

lemma Entry.Of.isMark (h : Entry.Of dialect l e) (hl : l.marker? = none) : e.isMark = false := by
  cases h with
  | opening token =>
    rw [Lexeme.marker?, token] at hl
    cases hl
  | otherwise token =>
    rw [Lexeme.marker?, token] at hl
    cases hl
  | closing token =>
    rw [Lexeme.marker?, token] at hl
    cases hl
  | kept token =>
    rw [Lexeme.marker?, token] at hl
    cases hl
  | _ => rfl

/-- A kind of entries that come from marks has as many entries as there are lexemes with these
marks. -/
lemma countP_entriesFrom {q : Marker → Bool} (hp : ∀ e, p e = true → e.isMark = true)
    (hq : ∀ isOpen code span, p (codeEntry isOpen code span) = q (.ofCode code)) :
    (entriesFrom dialect before isOpen lexemes).countP p =
      lexemes.countP fun l => l.marker?.any q := by
  induction lexemes generalizing before isOpen with
  | nil => rfl
  | cons l rest ih =>
    have one : (entryOf? dialect before isOpen l rest).toList.countP p =
        if l.marker?.any q then 1 else 0 := by
      cases hl : l.marker? with
      | none =>
        cases he : entryOf? dialect before isOpen l rest with
        | none => rfl
        | some e =>
          have hmark := (Entry.of_entryOf? he).isMark hl
          have hpe : p e = false := by
            cases hpe : p e with
            | false => rfl
            | true => exact nomatch hmark.symm.trans (hp e hpe)
          rw [Option.toList_some, List.countP_singleton, hpe]
          rfl
      | some marker =>
        obtain ⟨token, span, quoted, listed⟩ := l
        cases token with
        | code code =>
          cases hl
          simp only [entryOf?, Option.toList_some, List.countP_singleton, hq, Option.any_some]
        | _ => cases hl
    rw [entriesFrom, List.countP_append, ih, one, List.countP_cons, Nat.add_comm]

lemma countP_opens :
    (entriesOf dialect lexemes).countP Entry.opens =
      lexemes.countP fun l => l.marker?.any Marker.opens := by
  refine countP_entriesFrom (fun e he => ?_) fun isOpen code span => ?_
  · cases e with
    | opening c => rfl
    | _ => cases he
  · rw [codeEntry]
    cases Marker.ofCode code with
    | otherwise => cases isOpen <;> rfl
    | closing => cases isOpen <;> rfl
    | _ => rfl

lemma countP_marksEnd :
    (entriesOf dialect lexemes).countP Entry.marksEnd =
      lexemes.countP fun l => l.marker?.any Marker.closes := by
  refine countP_entriesFrom (fun e he => ?_) fun isOpen code span => ?_
  · cases e with
    | kept code span => rfl
    | closing => rfl
    | _ => cases he
  · rw [codeEntry]
    cases hm : Marker.ofCode code with
    | otherwise =>
      cases isOpen with
      | true => rfl
      | false => exact congrArg Marker.closes hm
    | closing =>
      cases isOpen with
      | true => rfl
      | false => exact congrArg Marker.closes hm
    | plain => exact congrArg Marker.closes hm
    | _ => rfl

lemma Marker.isStrayEnd_fault {code} :
    ((Marker.ofCode code).fault (.ofList code)).isStrayEnd = (Marker.ofCode code).closes := by
  have stray : (Problem.strayMarker (.ofList code)).isStrayEnd = (Marker.ofCode code).closes := by
    rw [Problem.isStrayEnd, String.toList_ofList]
  cases hm : Marker.ofCode code with
  | otherwise => exact stray.trans (congrArg closes hm)
  | closing => exact stray.trans (congrArg closes hm)
  | _ => rfl

/-- An end of a condition ends the open condition or is reported as stray. -/
lemma Entry.Of.marksEnd (h : Entry.Of dialect l e) :
    [e].countP Entry.marksEnd = [e].countP Entry.closes + e.faults.countP Problem.isStrayEnd := by
  cases h with
  | start =>
    rw [faults_start]
    rfl
  | paragraph hp =>
    obtain ⟨-, rfl⟩ := paragraph?_eq_some hp
    rfl
  | opening token hm =>
    rw [faults_opening hm]
    split
    · rfl
    · rfl
  | kept =>
    rw [faults_kept, List.countP_singleton, List.countP_singleton, List.countP_singleton,
      Marker.isStrayEnd_fault]
    exact (Nat.zero_add _).symm
  | @action content =>
    rw [faults_of_contents rfl, Part.fault?]
    cases (actionOf content).error with
    | none => rfl
    | some message => rfl
  | _ => rfl

lemma countP_closes :
    (entriesOf dialect lexemes).countP Entry.closes +
        ((entriesOf dialect lexemes).flatMap Entry.faults).countP Problem.isStrayEnd =
      lexemes.countP fun l => l.marker?.any Marker.closes := by
  rw [← @countP_marksEnd dialect]
  have sources : ∀ e ∈ entriesOf dialect lexemes, ∃ l ∈ lexemes, Entry.Of dialect l e :=
    fun _ => exists_of_mem_entriesFrom
  generalize entriesOf dialect lexemes = es at sources ⊢
  induction es with
  | nil => rfl
  | cons e es ih =>
    obtain ⟨⟨l, -, source⟩, hes⟩ := List.forall_mem_cons.1 sources
    have one := source.marksEnd
    have tail := ih hes
    rw [← List.singleton_append, List.countP_append, List.countP_append, List.flatMap_append,
      List.countP_append, List.flatMap_singleton]
    omega

end Lexemes

section Stories

variable {dialect : Dialect} {lexemes : List Lexeme}

/-- After reading, only links are reported. -/
lemma exists_found :
    ∃ found : List Diagnostic, (∀ x ∈ found, ∃ target, x.problem = .noSection target) ∧
      (assemble dialect lexemes).diagnostics =
        (Draft.reading dialect lexemes).diagnostics ++ found := by
  have kept : (Draft.reading dialect lexemes).finishSection.diagnostics =
      (Draft.reading dialect lexemes).diagnostics := congrArg (·.2.2) Draft.notes_finishSection
  refine ⟨_, fun x hx => ?_, congrArg (· ++ _) kept⟩
  obtain ⟨⟨target, span⟩, -, h⟩ := List.mem_filterMap.1 hx
  obtain ⟨-, h⟩ := Option.ite_none_right_eq_some.1 h
  cases h
  exact ⟨_, rfl⟩

/-- The faults among the problems are those of the entries, in order. -/
lemma faults_diagnostics :
    ((assemble dialect lexemes).diagnostics.map Diagnostic.problem).filter Problem.isFault =
      (entriesOf dialect lexemes).flatMap Entry.faults := by
  obtain ⟨found, hfound, e⟩ := @exists_found dialect lexemes
  have aside : (found.map Diagnostic.problem).filter Problem.isFault = [] := by
    refine List.filter_eq_nil_iff.2 fun problem hp => ?_
    obtain ⟨x, hx, rfl⟩ := List.mem_map.1 hp
    obtain ⟨target, h⟩ := hfound x hx
    rw [h]
    exact Bool.false_ne_true
  have read := Draft.faults_moves (@Draft.moves_reading dialect lexemes).1
  rw [e, List.map_append, List.filter_append, aside, List.append_nil]
  exact read

lemma unclosed_diagnostics :
    (assemble dialect lexemes).diagnostics.countP (·.problem.isUnclosed) =
      (Draft.reading dialect lexemes).unclosed := by
  obtain ⟨found, hfound, e⟩ := @exists_found dialect lexemes
  have aside : found.countP (·.problem.isUnclosed) = 0 := by
    refine List.countP_eq_zero.2 fun x hx => ?_
    obtain ⟨target, h⟩ := hfound x hx
    rw [h]
    exact Bool.false_ne_true
  rw [e, List.countP_append, aside]
  rfl

/-- The faults among the problems are those of the parts. -/
lemma perm_faults :
    (((assemble dialect lexemes).diagnostics.map Diagnostic.problem).filter Problem.isFault).Perm
      ((assemble dialect lexemes).story.everything.filterMap Part.fault?) := by
  obtain ⟨unset, hunset, perm⟩ := @perm_everything dialect lexemes
  have bare : unset.filterMap Part.fault? = [] := by
    refine List.filterMap_eq_nil_iff.2 fun part hp => ?_
    obtain rfl := List.mem_singleton.1 (hunset hp)
    rfl
  have alone : Part.fault? ∘ Part.alone = Part.fault? := funext fun _ => Part.fault?_alone
  have perm := perm.filterMap Part.fault?
  rw [List.filterMap_map, alone, List.filterMap_append, bare, List.nil_append,
    List.filterMap_flatMap] at perm
  rw [faults_diagnostics]
  exact perm.symm

section Counts

variable {q : Problem → Bool} (hq : ∀ {problem}, q problem = true → problem.isFault = true)

include hq

/-- A kind of faults is counted among the faults. -/
lemma countP_filter_isFault :
    (((assemble dialect lexemes).diagnostics.map Diagnostic.problem).filter
        Problem.isFault).countP q =
      (assemble dialect lexemes).diagnostics.countP fun x => q x.problem := by
  rw [List.countP_filter, List.countP_map]
  exact List.countP_congr fun x _ => Bool.and_eq_true_iff.trans ⟨And.left, fun h => ⟨h, hq h⟩⟩

/-- A kind of faults has as many diagnostics as there are parts at fault in this way. -/
lemma countP_faults :
    ((assemble dialect lexemes).diagnostics.countP fun x => q x.problem) =
      (assemble dialect lexemes).story.everything.countP fun part => part.fault?.any q := by
  rw [← countP_filter_isFault hq, perm_faults.countP_eq, List.countP_filterMap]
  refine List.countP_congr fun part _ => ?_
  cases part.fault? <;> rfl

end Counts

/-- Every start of a condition has an end that is not stray, or is reported as not closed. -/
lemma balance_assemble :
    lexemes.countP (fun l => l.marker?.any Marker.opens) +
        (assemble dialect lexemes).diagnostics.countP (·.problem.isStrayEnd) =
      lexemes.countP (fun l => l.marker?.any Marker.closes) +
        (assemble dialect lexemes).diagnostics.countP (·.problem.isUnclosed) ∧
    (assemble dialect lexemes).diagnostics.countP (·.problem.isStrayEnd) ≤
      lexemes.countP (fun l => l.marker?.any Marker.closes) := by
  have closed := @countP_closes dialect lexemes
  have opened := @countP_opens dialect lexemes
  obtain ⟨moves, hf⟩ := @Draft.moves_reading dialect lexemes
  have balance := Draft.balance_moves moves
  have before : Draft.empty.unclosed + Draft.empty.opened = 0 := rfl
  rw [Draft.opened_of_none hf, ← unclosed_diagnostics, opened] at balance
  rw [← faults_diagnostics, countP_filter_isFault Problem.isFault_of_isStrayEnd] at closed
  omega

/--
The diagnostics of a source and the errors in its story agree: every error is one action with an
error or one condition with an error that keeps a sign, every other condition with an error is one
warning about code that is no marker, and every start of a condition has its end or is one warning
that it is not closed.
-/
theorem faults_assemble (dialect : Dialect) (lexemes : List Lexeme) :
    let diagnostics := (assemble dialect lexemes).diagnostics
    let parts := (assemble dialect lexemes).story.everything
    diagnostics.countP Diagnostic.isError =
        parts.countP Part.isFaultyAction + parts.countP Part.isFaultySign ∧
      diagnostics.countP (·.problem = .noMarker) = parts.countP Part.isFaultyCode ∧
      ((diagnostics.map Diagnostic.problem).filter Problem.isFault).Perm
        (parts.filterMap Part.fault?) ∧
      diagnostics.countP (·.problem.isStrayEnd) ≤
        lexemes.countP (fun l => l.marker?.any Marker.closes) ∧
      lexemes.countP (fun l => l.marker?.any Marker.opens) =
        lexemes.countP (fun l => l.marker?.any Marker.closes) -
            diagnostics.countP (·.problem.isStrayEnd) +
          diagnostics.countP (·.problem.isUnclosed) := by
  dsimp only
  have errors := @countP_faults dialect lexemes _ Problem.isFault_of_error
  have codes := @countP_faults dialect lexemes _ Problem.isFault_of_eq
  obtain ⟨balance, strays⟩ := @balance_assemble dialect lexemes
  refine ⟨errors.trans Part.countP_errors, ?_, perm_faults, strays, by omega⟩
  refine codes.trans (List.countP_congr fun part _ => ?_)
  rw [Part.isError_fault?.2]

end Stories

end Markup

end Gamebook
