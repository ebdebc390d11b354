import Gamebook.Markup.Draft
import Mathlib.Tactic.Lemma

/-!
# Notes

A draft notes where its links lead and what is wrong with its source. What is noted of a piece of
content can be read off the piece: its target, and its fault if it has an error. The other problems
are about conditions that are not closed, or mere asides. Main definitions: `Part.target?`,
`Part.fault?`, `Markup.Draft.note`.
-/

namespace Gamebook

open Markup

namespace Markup

/-- The problem of code that is kept, by what the code means. -/
def Marker.fault (code : String) : Marker → Problem
  | opening _ => .noExpression
  | otherwise => .strayMarker code
  | closing => .strayMarker code
  | _ => .noMarker

namespace Problem

/-- Whether a problem is about content that could not be understood. -/
def isFault : Problem → Bool
  | noExpression => true
  | strayMarker _ => true
  | noState _ => true
  | noMarker => true
  | _ => false

/-- Whether a problem is a condition that is not closed. -/
def isUnclosed (problem : Problem) : Bool :=
  problem.label? = some "opened here"

lemma isUnclosed_of_isFault {problem : Problem} (h : problem.isFault = true) :
    problem.isUnclosed = false := by
  cases problem with
  | noExpression => rfl
  | strayMarker code => rfl
  | noState message => rfl
  | noMarker => rfl
  | _ => cases h

end Problem

lemma Marker.isFault_fault {code} {marker : Marker} : (marker.fault code).isFault = true := by
  cases marker <;> rfl

end Markup

/-- The problem of a condition with an error. -/
def Condition.fault (c : Condition) : Problem :=
  match c.source with
  | some code => (Marker.ofCode code.toList).fault code
  | none => .noMarker

namespace Part

/-- The target of a part that leads to another section, as it is written. -/
def target? : Part → Option String
  | link l => some l.target
  | navigation _ target => some target
  | _ => none

/-- The problem of a part with an error. -/
def fault? : Part → Option Problem
  | action a => a.error.map .noState
  | condition c _ _ => c.error.map fun _ => c.fault
  | _ => none

lemma fault?_keptCode {code} :
    (keptCode code).fault? = some ((Marker.ofCode code).fault (.ofList code)) := by
  simp only [keptCode, fault?, Option.map_some, Condition.fault, String.toList_ofList]

lemma isFault_of_fault? {part : Part} {problem} (h : part.fault? = some problem) :
    problem.isFault = true := by
  cases part with
  | action a =>
    obtain ⟨message, -, rfl⟩ := Option.map_eq_some_iff.1 h
    rfl
  | condition c whenTrue whenFalse =>
    obtain ⟨message, -, rfl⟩ := Option.map_eq_some_iff.1 h
    rw [Condition.fault]
    split
    · exact Marker.isFault_fault
    · rfl
  | _ => cases h

end Part

namespace Markup.Draft

variable {d d' : Draft} {part : Part} {problem : Problem} {span : Span}

/-- Notes where a part leads and what is wrong with it. -/
def note (part : Part) (span : Span) (d : Draft) : Draft :=
  let d := part.target?.elim d fun target => d.noteTarget target span
  part.fault?.elim d fun problem => d.report problem span

/-- Notes are no content. -/
lemma note_eq : ∃ targets diagnostics,
    d.note part span = { d with targets := targets, diagnostics := diagnostics } := by
  rw [note]
  cases part.target? with
  | none =>
    cases part.fault? with
    | none => exact ⟨_, _, rfl⟩
    | some problem => exact ⟨_, _, rfl⟩
  | some target =>
    cases part.fault? with
    | none => exact ⟨_, _, rfl⟩
    | some problem => exact ⟨_, _, rfl⟩

/-- All that a draft notes. -/
def notes (d : Draft) : List (String × Span) × List (String × Span) × List Diagnostic :=
  (d.headings, d.targets, d.diagnostics)

lemma notes_emit : (d.emit part).notes = d.notes := by
  obtain ⟨title, description, sections, current, paragraph, frame, headings, targets,
    diagnostics⟩ := d
  cases frame <;> cases current <;> rfl

lemma notes_closeFrame : d.closeFrame.notes = d.notes := by
  rw [closeFrame]
  cases d.frame with
  | none => rfl
  | some frame => exact notes_emit

lemma notes_finishSection : d.finishSection.notes = d.notes := by
  rw [finishSection]
  cases d.current with
  | none => rfl
  | some s => rfl

section Targets

/-- The targets that are noted. -/
def noted (d : Draft) : List String :=
  d.targets.map Prod.fst

lemma noted_of_notes (h : d'.notes = d.notes) : d'.noted = d.noted := by
  have htargets : d'.targets = d.targets := congrArg (·.2.1) h
  rw [noted, htargets, noted]

lemma noted_note : (d.note part span).noted = d.noted ++ part.target?.toList := by
  rw [note]
  cases part.target? with
  | none =>
    cases part.fault? with
    | none => exact (List.append_nil _).symm
    | some problem => exact (List.append_nil _).symm
  | some target =>
    cases part.fault? with
    | none => exact List.map_append
    | some problem => exact List.map_append

end Targets

section Faults

/-- The faults that are noted. -/
def faults (d : Draft) : List Problem :=
  (d.diagnostics.map Diagnostic.problem).filter Problem.isFault

lemma faults_of_notes (h : d'.notes = d.notes) : d'.faults = d.faults := by
  have hdiagnostics : d'.diagnostics = d.diagnostics := congrArg (·.2.2) h
  rw [faults, hdiagnostics, faults]

lemma faults_report (h : problem.isFault = true) :
    (d.report problem span).faults = d.faults ++ [problem] := by
  rw [faults, report, List.map_append, List.filter_append, ← faults, List.map_singleton,
    List.filter_cons_of_pos h, List.filter_nil]

lemma faults_aside (h : problem.isFault = false) : (d.report problem span).faults = d.faults := by
  rw [faults, report, List.map_append, List.filter_append, ← faults, List.map_singleton,
    List.filter_cons_of_neg (ne_true_of_eq_false h), List.filter_nil, List.append_nil]

lemma faults_note : (d.note part span).faults = d.faults ++ part.fault?.toList := by
  have same : (part.target?.elim d fun target => d.noteTarget target span).faults = d.faults := by
    cases part.target? with
    | none => rfl
    | some target => rfl
  rw [note]
  cases hfault : part.fault? with
  | none => exact same.trans (List.append_nil _).symm
  | some problem =>
    exact (faults_report (Part.isFault_of_fault? hfault)).trans (congrArg (· ++ [problem]) same)

end Faults

section Unclosed

/-- The number of conditions that are noted as not closed. -/
def unclosed (d : Draft) : Nat :=
  d.diagnostics.countP (·.problem.isUnclosed)

lemma unclosed_of_notes (h : d'.notes = d.notes) : d'.unclosed = d.unclosed := by
  have hdiagnostics : d'.diagnostics = d.diagnostics := congrArg (·.2.2) h
  rw [unclosed, hdiagnostics, unclosed]

lemma unclosed_report (h : problem.isUnclosed = false) :
    (d.report problem span).unclosed = d.unclosed := by
  rw [unclosed, report, List.countP_append, ← unclosed, List.countP_singleton, h]
  rfl

lemma unclosed_report_unclosed {where_} :
    (d.report (.unclosed where_) span).unclosed = d.unclosed + 1 := by
  rw [unclosed, report, List.countP_append, ← unclosed]
  rfl

lemma unclosed_note : (d.note part span).unclosed = d.unclosed := by
  have same : (part.target?.elim d fun target => d.noteTarget target span).unclosed =
      d.unclosed := by
    cases part.target? with
    | none => rfl
    | some target => rfl
  rw [note]
  cases hfault : part.fault? with
  | none => exact same
  | some problem =>
    have fault := Part.isFault_of_fault? hfault
    exact (unclosed_report (Problem.isUnclosed_of_isFault fault)).trans same

end Unclosed

end Markup.Draft

end Gamebook
