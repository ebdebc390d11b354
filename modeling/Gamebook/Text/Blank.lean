/-!
# Blank characters

The blanks of a text are the characters with the Unicode property `White_Space`. This module holds
the class (`isBlank`) and the operations that drop blanks at the ends of a text (`trim`) or
everywhere in it (`removeBlanks`), and that take runs of them together (`singleSpaced`).
-/

namespace Gamebook.Text

/-- The 25 characters with the Unicode property `White_Space`. -/
def isBlank (c : Char) : Bool :=
  let n := c.val
  (9 ≤ n && n ≤ 13) || n == 0x20 || n == 0x85 || n == 0xA0 || n == 0x1680 ||
    (0x2000 ≤ n && n ≤ 0x200A) || n == 0x2028 || n == 0x2029 || n == 0x202F || n == 0x205F ||
    n == 0x3000

/-- The text without the blanks at its start. -/
def trimStart (cs : List Char) : List Char :=
  cs.dropWhile isBlank

/-- The text without the characters of a class at its end. -/
def dropEndWhile (p : Char → Bool) (cs : List Char) : List Char :=
  (cs.reverse.dropWhile p).reverse

/-- The text without the blanks at its end. -/
def trimEnd (cs : List Char) : List Char :=
  dropEndWhile isBlank cs

/-- The text without the blanks at both ends. -/
def trim (cs : List Char) : List Char :=
  trimEnd (trimStart cs)

/-- The text without any blank. -/
def removeBlanks (cs : List Char) : List Char :=
  cs.filter (!isBlank ·)

/-- The text with each run of blanks as one space, from a place inside or outside of such a run. -/
def spacedFrom : (inRun : Bool) → List Char → List Char
  | _, [] => []
  | inRun, c :: cs =>
    if isBlank c then if inRun then spacedFrom true cs else ' ' :: spacedFrom true cs
    else c :: spacedFrom false cs

/-- The words of a text with one space between them. -/
def singleSpaced (cs : List Char) : List Char :=
  spacedFrom false (trim cs)

/-- No blank is left by `removeBlanks`. -/
theorem not_isBlank_of_mem_removeBlanks {c : Char} {cs : List Char} (h : c ∈ removeBlanks cs) :
    isBlank c = false := by
  simp only [removeBlanks, List.mem_filter, Bool.not_eq_eq_eq_not, Bool.not_true] at h
  exact h.2

/-- Removing the blanks of a text without blanks changes nothing. -/
theorem removeBlanks_removeBlanks (cs : List Char) :
    removeBlanks (removeBlanks cs) = removeBlanks cs := by
  simp [removeBlanks]

/-- Trimming drops the blanks around a text that has none at its ends. -/
theorem trim_between (before after : List Char) {cs : List Char}
    (hb : ∀ c ∈ before, isBlank c = true) (ha : ∀ c ∈ after, isBlank c = true) (hne : cs ≠ [])
    (hfirst : ∀ c ∈ cs.head?, isBlank c = false)
    (hlast : ∀ c ∈ cs.getLast?, isBlank c = false) : trim (before ++ (cs ++ after)) = cs := by
  obtain ⟨c, cs, rfl⟩ : ∃ c ds, cs = c :: ds := List.exists_cons_of_ne_nil hne
  have hstart : trimStart (before ++ (c :: cs ++ after)) = c :: cs ++ after := by
    have hc : ¬isBlank c = true := ne_true_of_eq_false (hfirst c rfl)
    rw [trimStart, List.dropWhile_append_of_pos hb, List.cons_append, List.dropWhile_cons_of_neg hc]
  have hstop : ((c :: cs).reverse).dropWhile isBlank = (c :: cs).reverse := by
    cases e : (c :: cs).reverse with
    | nil => rfl
    | cons d ds =>
      have hd : ¬isBlank d = true := by
        refine ne_true_of_eq_false (hlast d ?_)
        rw [← List.head?_reverse, e]
        rfl
      rw [List.dropWhile_cons_of_neg hd]
  rw [trim, hstart, trimEnd, dropEndWhile, List.reverse_append,
    List.dropWhile_append_of_pos (fun c hc => ha c (List.mem_reverse.1 hc)), hstop, List.reverse_reverse]

/-- A text with no blank at its ends is not changed by trimming. -/
theorem trim_of_ends {cs : List Char} (hne : cs ≠ []) (hfirst : ∀ c ∈ cs.head?, isBlank c = false)
    (hlast : ∀ c ∈ cs.getLast?, isBlank c = false) : trim cs = cs := by
  have h := trim_between [] [] (List.forall_mem_nil _) (List.forall_mem_nil _) hne hfirst hlast
  rwa [List.append_nil] at h

/-- A text that ends with no blank is not changed by trimming its end. -/
theorem trimEnd_concat {cs : List Char} {c : Char} (hc : isBlank c = false) :
    trimEnd (cs ++ [c]) = cs ++ [c] := by
  rw [trimEnd, dropEndWhile, List.reverse_append, List.reverse_singleton, List.singleton_append,
    List.dropWhile_cons_of_neg (ne_true_of_eq_false hc), List.reverse_cons, List.reverse_reverse]

end Gamebook.Text
