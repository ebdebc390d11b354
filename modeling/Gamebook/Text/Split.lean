/-!
# Cutting texts

Texts are cut at the first or last occurrence of a character (`cutAtFirst?`, `cutAtLast?`), at every
occurrence (`splitOn`), after every line feed (`linesKept`), and by leading and trailing pieces
(`dropPrefix?`, `dropSuffix?`). Each cut keeps every character: the lemmas beside the definitions
say how the pieces make up the text.
-/

namespace Gamebook.Text

/-- The parts of a text before and after the first `c`, if there is one. -/
def cutAtFirst? (c : Char) : List Char → Option (List Char × List Char)
  | [] => none
  | d :: ds =>
    if d = c then some ([], ds) else (cutAtFirst? c ds).map fun (before, after) => (d :: before, after)

/-- The parts of a text before and after the last `c`, if there is one. -/
def cutAtLast? (c : Char) : List Char → Option (List Char × List Char)
  | [] => none
  | d :: ds =>
    match cutAtLast? c ds with
    | some (before, after) => some (d :: before, after)
    | none => if d = c then some ([], ds) else none

/-- The pieces of a text between the occurrences of `c`; a text without `c` is one piece. -/
def splitOn (c : Char) : List Char → List (List Char)
  | [] => [[]]
  | d :: ds =>
    match splitOn c ds with
    | [] => [[]]
    | piece :: pieces => if d = c then [] :: piece :: pieces else (d :: piece) :: pieces

/-- The lines of a text, each with the line feed that ends it; an empty text has no line. -/
def linesKept : List Char → List (List Char)
  | [] => []
  | c :: cs =>
    if c = '\n' then [c] :: linesKept cs
    else
      match linesKept cs with
      | [] => [[c]]
      | line :: lines => (c :: line) :: lines

/-- The rest of a text that starts with `start`. -/
def dropPrefix? : (start : List Char) → List Char → Option (List Char)
  | [], cs => some cs
  | _ :: _, [] => none
  | p :: ps, c :: cs => if p = c then dropPrefix? ps cs else none

/-- The part before `ending` of a text that ends with it. -/
def dropSuffix? (ending cs : List Char) : Option (List Char) :=
  (dropPrefix? ending.reverse cs.reverse).map List.reverse

/-- The rest of a text after the first occurrence of a piece. -/
def dropThrough? (piece : List Char) : List Char → Option (List Char)
  | [] => none
  | c :: cs =>
    match dropPrefix? piece (c :: cs) with
    | some rest => some rest
    | none => dropThrough? piece cs

/-- Whether a piece occurs in a text. -/
def occurs (piece cs : List Char) : Bool :=
  (dropThrough? piece cs).isSome

/-- The text with every occurrence of the character `c` written as `piece`. -/
def replaceChar (c : Char) (piece : List Char) (cs : List Char) : List Char :=
  cs.flatMap fun d => if d = c then piece else [d]

/-- The text with every occurrence of the pair `c c`, found from the left, written as `piece`. -/
def replaceDouble (c : Char) (piece : List Char) : List Char → List Char
  | [] => []
  | [d] => [d]
  | d :: e :: ds =>
    if d = c ∧ e = c then piece ++ replaceDouble c piece ds else d :: replaceDouble c piece (e :: ds)

/-- The pieces joined with `sep` between neighbours. -/
def joinWith (sep : List Char) : List (List Char) → List Char
  | [] => []
  | [piece] => piece
  | piece :: pieces => piece ++ sep ++ joinWith sep pieces

/-- The first cut point splits the text there, and no earlier character is the cut character. -/
theorem cutAtFirst?_eq_some {c : Char} {cs before after : List Char}
    (h : cutAtFirst? c cs = some (before, after)) : cs = before ++ c :: after ∧ c ∉ before := by
  induction cs generalizing before with
  | nil => simp [cutAtFirst?] at h
  | cons d ds ih =>
    simp only [cutAtFirst?] at h
    split at h
    · next e =>
      simp only [Option.some.injEq, Prod.mk.injEq] at h
      obtain ⟨rfl, rfl⟩ := h
      simp [e]
    · next e =>
      simp only [Option.map_eq_some_iff, Prod.mk.injEq, Prod.exists] at h
      obtain ⟨b, a, hb, rfl, rfl⟩ := h
      obtain ⟨hcs, hb⟩ := ih hb
      simp [hcs, hb, Ne.symm e]

/-- A text is cut at a character that does not occur before. -/
theorem cutAtFirst?_append {c : Char} {before after : List Char} (h : c ∉ before) :
    cutAtFirst? c (before ++ c :: after) = some (before, after) := by
  induction before with
  | nil => simp [cutAtFirst?]
  | cons d ds ih =>
    rw [List.mem_cons, not_or] at h
    simp [cutAtFirst?, Ne.symm h.1, ih h.2]

/-- There is no cut exactly when the character does not occur. -/
theorem cutAtFirst?_eq_none_iff {c : Char} {cs : List Char} : cutAtFirst? c cs = none ↔ c ∉ cs := by
  induction cs with
  | nil => simp [cutAtFirst?]
  | cons d ds ih =>
    by_cases e : d = c
    · simp [cutAtFirst?, e]
    · simp [cutAtFirst?, e, ih, Ne.symm e]

/-- A text always has at least one piece. -/
theorem splitOn_ne_nil (c : Char) (cs : List Char) : splitOn c cs ≠ [] := by
  induction cs with
  | nil => simp [splitOn]
  | cons d ds ih =>
    simp only [splitOn]
    split
    · simp
    · split <;> simp

/-- The lines of a text make up the text. -/
theorem flatten_linesKept (cs : List Char) : (linesKept cs).flatten = cs := by
  induction cs with
  | nil => rfl
  | cons c cs ih =>
    simp only [linesKept]
    split
    · simp [ih]
    · split <;> simp_all

/-- Dropping a start and putting it back gives the text. -/
theorem dropPrefix?_eq_some_iff {start cs rest : List Char} :
    dropPrefix? start cs = some rest ↔ cs = start ++ rest := by
  induction start generalizing cs with
  | nil => simp [dropPrefix?, eq_comm]
  | cons p ps ih =>
    cases cs with
    | nil => simp [dropPrefix?]
    | cons c cs =>
      by_cases e : p = c
      · simp [dropPrefix?, e, ih]
      · simp [dropPrefix?, e, Ne.symm e]

/-- Dropping an ending gives what is before it. -/
theorem dropSuffix?_append {cs ending : List Char} : dropSuffix? ending (cs ++ ending) = some cs := by
  rw [dropSuffix?, List.reverse_append, dropPrefix?_eq_some_iff.2 rfl, Option.map_some, List.reverse_reverse]

end Gamebook.Text
