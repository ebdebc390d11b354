import Gamebook.Rules.Substitution
import Mathlib.Tactic.Lemma

/-!
# Groups in braces

A pass over a text leaves what stands outside of the groups and writes the leaf for each group that
names one. A text without closing braces is filled in as it is. Main statements:
`substitutePass_append`, `substitutePass_group`, `substitute_of_not_mem`.
-/

namespace Gamebook

namespace Text

variable {c : Char} {cs rest : List Char}

/-- A text that does not have the separator is one piece. -/
lemma splitOn_of_not_mem (h : c ∉ cs) : splitOn c cs = [cs] := by
  induction cs with
  | nil => rfl
  | cons d cs ih =>
    rw [List.mem_cons, not_or] at h
    simp only [splitOn, ih h.2, if_neg (Ne.symm h.1)]

/-- The text up to the first separator is a piece. -/
lemma splitOn_append_cons (h : c ∉ cs) : splitOn c (cs ++ c :: rest) = cs :: splitOn c rest := by
  induction cs with
  | nil =>
    obtain ⟨piece, pieces, he⟩ := List.exists_cons_of_ne_nil (splitOn_ne_nil c rest)
    simp only [List.nil_append, splitOn, he, if_true]
  | cons d cs ih =>
    rw [List.mem_cons, not_or] at h
    simp only [List.cons_append, splitOn, ih h.2, if_neg (Ne.symm h.1)]

/-- A text without the separator belongs to the piece after it. -/
lemma splitOn_append {piece pieces} (h : c ∉ cs) (hrest : splitOn c rest = piece :: pieces) :
    splitOn c (cs ++ rest) = (cs ++ piece) :: pieces := by
  induction cs with
  | nil => exact hrest
  | cons d cs ih =>
    rw [List.mem_cons, not_or] at h
    simp only [List.cons_append, splitOn, ih h.2, if_neg (Ne.symm h.1)]

/-- There is no cut in a text that does not have the character. -/
lemma cutAtLast?_of_not_mem (h : c ∉ cs) : cutAtLast? c cs = none := by
  induction cs with
  | nil => rfl
  | cons d cs ih =>
    rw [List.mem_cons, not_or] at h
    simp only [cutAtLast?, ih h.2, if_neg (Ne.symm h.1)]

/-- A text without the character in front does not change where the text is cut. -/
lemma cutAtLast?_append (h : c ∉ cs) :
    cutAtLast? c (cs ++ rest) =
      (cutAtLast? c rest).map fun (before, after) => (cs ++ before, after) := by
  induction cs with
  | nil =>
    cases e : cutAtLast? c rest with
    | none => simp [e]
    | some cut => simp [e]
  | cons d cs ih =>
    rw [List.mem_cons, not_or] at h
    rw [List.cons_append, cutAtLast?, ih h.2]
    cases cutAtLast? c rest with
    | none => simp only [Option.map_none, if_neg (Ne.symm h.1)]
    | some cut => rfl

end Text

variable {sheet : Sheet} {cs key rest : List Char} {leaf : Scalar}

lemma substitutePieces_cons_cons {piece next : List Char} {pieces} :
    substitutePieces sheet (piece :: next :: pieces) =
      substituteGroup sheet piece ++ substitutePieces sheet (next :: pieces) :=
  rfl

lemma substitutePass_of_not_mem (h : '}' ∉ cs) : substitutePass sheet cs = cs := by
  rw [substitutePass, Text.splitOn_of_not_mem h]
  rfl

/-- A text without braces in front of a text stays as it is. -/
lemma substitutePass_append (hopen : '{' ∉ cs) (hclose : '}' ∉ cs) :
    substitutePass sheet (cs ++ rest) = cs ++ substitutePass sheet rest := by
  obtain ⟨piece, pieces, he⟩ := List.exists_cons_of_ne_nil (Text.splitOn_ne_nil '}' rest)
  rw [substitutePass, substitutePass, Text.splitOn_append hclose he, he]
  cases pieces with
  | nil => rfl
  | cons next pieces =>
    have hgroup : substituteGroup sheet (cs ++ piece) = cs ++ substituteGroup sheet piece := by
      rw [substituteGroup, substituteGroup, Text.cutAtLast?_append hopen]
      cases Text.cutAtLast? '{' piece with
      | none => exact List.append_assoc _ _ _
      | some cut =>
        simp only [Option.map_some]
        cases sheet.get? (.ofList cut.2) with
        | none => exact List.append_assoc _ _ _
        | some leaf => exact List.append_assoc _ _ _
    rw [substitutePieces_cons_cons, substitutePieces_cons_cons, hgroup, List.append_assoc]

/-- A group at the start of a text is replaced by the leaf that it names. -/
lemma substitutePass_group (hopen : '{' ∉ key) (hclose : '}' ∉ key)
    (h : sheet.get? (.ofList key) = some leaf) :
    substitutePass sheet ('{' :: (key ++ '}' :: rest)) =
      leaf.display.toList ++ substitutePass sheet rest := by
  obtain ⟨piece, pieces, he⟩ := List.exists_cons_of_ne_nil (Text.splitOn_ne_nil '}' rest)
  have hsplit : Text.splitOn '}' ('{' :: (key ++ '}' :: rest)) =
      ('{' :: key) :: Text.splitOn '}' rest := by
    rw [← List.cons_append, Text.splitOn_append_cons (by simpa using hclose)]
  have hgroup : substituteGroup sheet ('{' :: key) = leaf.display.toList := by
    rw [substituteGroup, Text.cutAtLast?, Text.cutAtLast?_of_not_mem hopen]
    simp only [if_true, h]
    rfl
  rw [substitutePass, hsplit, he, substitutePieces_cons_cons, hgroup, substitutePass, he]

/-- A text that a pass turns into one without closing braces is filled in by this pass. -/
lemma substitute_eq {text : String} {filled : List Char}
    (h : substitutePass sheet text.toList = filled) (hclose : '}' ∉ filled) :
    substitute sheet text = .ofList filled := by
  have passes : ∀ n, Nat.repeat (substitutePass sheet) (n + 1) text.toList = filled := by
    intro n
    induction n with
    | zero => exact h
    | succ n ih => rw [Nat.repeat, ih, substitutePass_of_not_mem hclose]
  rw [substitute, maxPasses, passes]

/-- A text without closing braces stays as it is. -/
lemma substitute_of_not_mem {text : String} (h : '}' ∉ text.toList) :
    substitute sheet text = text := by
  rw [substitute_eq (substitutePass_of_not_mem h) h, String.ofList_toList]

end Gamebook
