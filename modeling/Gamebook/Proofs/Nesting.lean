import Gamebook.Proofs.Diceless
import Gamebook.Proofs.Groups
import Gamebook.Proofs.Rebuilding

/-!
# Nested groups

A text with braces is read as nested groups; a brace without a match is a character like any other.
Filling in the groups from the inside takes one pass for each level at most, and a group that names
no leaf keeps its braces and those of the groups around it. So sixteen passes settle a text of
sixteen levels. Main definitions: `Braced`, `Braced.read`, `Braced.filled`. Main statement:
`substitute_settled`.
-/

namespace Gamebook

/-- Whether a text has no braces. -/
def Unbraced (cs : List Char) : Prop :=
  '{' ∉ cs ∧ '}' ∉ cs

instance (cs : List Char) : Decidable (Unbraced cs) :=
  inferInstanceAs (Decidable (_ ∧ _))

lemma unbraced_cons_iff {c : Char} {cs : List Char} :
    Unbraced (c :: cs) ↔ (c ≠ '{' ∧ c ≠ '}') ∧ Unbraced cs := by
  simp only [Unbraced, List.mem_cons, not_or, and_and_and_comm, ne_eq, eq_comm]

/-- Whether an opening brace comes before each closing brace. -/
def OpensFirst (cs : List Char) : Prop :=
  ∀ key rest, cs = key ++ '}' :: rest → '{' ∈ key

namespace OpensFirst

variable {cs : List Char}

lemma nil : OpensFirst [] := by
  intro key rest he
  cases key <;> cases he

lemma opening : OpensFirst ('{' :: cs) := by
  intro key rest he
  cases key with
  | nil => cases (List.cons.inj he).1
  | cons d key =>
    rw [← (List.cons.inj he).1]
    exact List.mem_cons_self

lemma cons {c : Char} (hc : c ≠ '}') (h : OpensFirst cs) : OpensFirst (c :: cs) := by
  intro key rest he
  cases key with
  | nil => exact (hc (List.cons.inj he).1).elim
  | cons d key => exact List.mem_cons_of_mem _ (h key rest (List.cons.inj he).2)

end OpensFirst

section Pass

variable {sheet : Sheet} {cs rest key : List Char}

/-- A text is cut where its end is cut. -/
lemma Text.cutAtLast?_append_some {c : Char} {before after : List Char}
    (h : cutAtLast? c rest = some (before, after)) :
    cutAtLast? c (cs ++ rest) = some (cs ++ before, after) := by
  induction cs with
  | nil => exact h
  | cons d cs ih =>
    rw [List.cons_append, cutAtLast?, ih]
    rfl

/-- A text is its last piece, or a piece and its closing brace before a text. -/
lemma closing_induction {motive : List Char → Prop} (last : ∀ cs, '}' ∉ cs → motive cs)
    (close : ∀ cs rest, '}' ∉ cs → motive rest → motive (cs ++ '}' :: rest)) (cs : List Char) :
    motive cs := by
  induction h : cs.length using Nat.strongRecOn generalizing cs with
  | _ n ih =>
    by_cases hmem : '}' ∈ cs
    · obtain ⟨piece, rest, rfl, hpiece⟩ := List.eq_append_cons_of_mem hmem
      apply close piece rest hpiece
      apply ih rest.length _ rest rfl
      rw [← h, List.length_append, List.length_cons]
      omega
    · exact last cs hmem

lemma substitutePass_close (h : '}' ∉ cs) :
    substitutePass sheet (cs ++ '}' :: rest) =
      substituteGroup sheet cs ++ substitutePass sheet rest := by
  obtain ⟨piece, pieces, he⟩ := List.exists_cons_of_ne_nil (Text.splitOn_ne_nil '}' rest)
  rw [substitutePass, Text.splitOn_append_cons h, he, substitutePieces_cons_cons, substitutePass, he]

/-- What is before an opening brace is not looked at with what is after it. -/
lemma substitutePass_append_opening :
    substitutePass sheet (cs ++ '{' :: rest) =
      substitutePass sheet cs ++ substitutePass sheet ('{' :: rest) := by
  induction cs using closing_induction with
  | last cs h =>
    obtain ⟨piece, pieces, he⟩ := List.exists_cons_of_ne_nil (Text.splitOn_ne_nil '}' ('{' :: rest))
    rw [substitutePass_of_not_mem h, substitutePass, substitutePass, Text.splitOn_append h he, he]
    cases pieces with
    | nil => rfl
    | cons next pieces =>
      obtain ⟨before, key, hcut⟩ : ∃ before key, Text.cutAtLast? '{' piece = some (before, key) := by
        obtain ⟨first, firsts, hrest⟩ := List.exists_cons_of_ne_nil (Text.splitOn_ne_nil '}' rest)
        rw [Text.splitOn, hrest] at he
        obtain ⟨rfl, -⟩ := List.cons.inj he
        rw [Text.cutAtLast?]
        cases Text.cutAtLast? '{' first with
        | none => exact ⟨_, _, rfl⟩
        | some cut => exact ⟨_, _, rfl⟩
      have group : substituteGroup sheet (cs ++ piece) = cs ++ substituteGroup sheet piece := by
        rw [substituteGroup, substituteGroup, Text.cutAtLast?_append_some hcut, hcut]
        dsimp only
        cases sheet.get? (.ofList key) with
        | none => exact List.append_assoc _ _ _
        | some leaf => exact List.append_assoc _ _ _
      rw [substitutePieces_cons_cons, substitutePieces_cons_cons, group, List.append_assoc]
  | close cs tail h ih =>
    rw [List.append_assoc, List.cons_append, substitutePass_close h, substitutePass_close h, ih,
      List.append_assoc]

/-- A character that opens no group stays as it is. -/
lemma substitutePass_cons {c : Char} (h : c ≠ '{') :
    substitutePass sheet (c :: cs) = c :: substitutePass sheet cs := by
  by_cases hc : c = '}'
  · subst hc
    exact @substitutePass_close sheet [] cs List.not_mem_nil
  · have hopen : '{' ∉ [c] := by simpa using Ne.symm h
    have hclose : '}' ∉ [c] := by simpa using Ne.symm hc
    exact substitutePass_append hopen hclose

/-- An opening brace stays as it is if another one comes before the next closing brace. -/
lemma substitutePass_opening (h : OpensFirst cs) :
    substitutePass sheet ('{' :: cs) = '{' :: substitutePass sheet cs := by
  by_cases hmem : '}' ∈ cs
  · obtain ⟨key, rest, rfl, hclose⟩ := List.eq_append_cons_of_mem hmem
    obtain ⟨first, key, rfl, hopen⟩ := List.eq_append_cons_of_mem (h key rest rfl)
    have hfirst : '}' ∉ first := fun hc => hclose (List.mem_append_left _ hc)
    have hbefore : '}' ∉ '{' :: first := by
      rw [List.mem_cons, not_or]
      exact ⟨by decide, hfirst⟩
    rw [List.append_assoc, List.cons_append, ← List.cons_append, substitutePass_append_opening,
      substitutePass_append hopen hfirst, substitutePass_of_not_mem hbefore]
    rfl
  · rw [substitutePass_of_not_mem hmem, substitutePass_of_not_mem]
    rw [List.mem_cons, not_or]
    exact ⟨by decide, hmem⟩

/-- What a group is replaced by, when the groups in it are settled. -/
def groupText (sheet : Sheet) (key : List Char) : List Char :=
  if Unbraced key then
    match sheet.get? (.ofList key) with
    | some leaf => leaf.display.toList
    | none => '{' :: key ++ ['}']
  else '{' :: key ++ ['}']

lemma groupText_of_not_unbraced (h : ¬Unbraced key) :
    groupText sheet key = '{' :: key ++ ['}'] := by
  rw [groupText, if_neg h]

lemma groupText_some {leaf : Scalar} (hkey : Unbraced key)
    (h : sheet.get? (.ofList key) = some leaf) : groupText sheet key = leaf.display.toList := by
  rw [groupText, if_pos hkey, h]

lemma groupText_none (h : sheet.get? (.ofList key) = none) :
    groupText sheet key = '{' :: key ++ ['}'] := by
  rw [groupText, h]
  split <;> rfl

/-- An innermost group at the start of a text is replaced if it names a leaf. -/
lemma substitutePass_innermost (h : Unbraced key) :
    substitutePass sheet ('{' :: (key ++ '}' :: rest)) =
      groupText sheet key ++ substitutePass sheet rest := by
  have hclose : '}' ∉ '{' :: key := by
    rw [List.mem_cons, not_or]
    exact ⟨by decide, h.2⟩
  have group : substituteGroup sheet ('{' :: key) = groupText sheet key := by
    rw [substituteGroup, Text.cutAtLast?, Text.cutAtLast?_of_not_mem h.1, groupText, if_pos h]
    simp only [if_true]
    cases sheet.get? (.ofList key) with
    | none => rfl
    | some leaf => rfl
  rw [← List.cons_append, substitutePass_close hclose, group]

variable (plain : ∀ e ∈ sheet.entries, Unbraced e.2.display.toList)
include plain

lemma unbraced_of_get? {path : String} {leaf : Scalar} (h : sheet.get? path = some leaf) :
    Unbraced leaf.display.toList :=
  plain (path, leaf) ((Ordered.get?_eq_some_iff sheet.nodup).1 h)

/-- A pass brings in no opening brace. -/
lemma count_substitutePass_le (cs : List Char) :
    (substitutePass sheet cs).count '{' ≤ cs.count '{' := by
  induction cs using closing_induction with
  | last cs h => exact Nat.le_of_eq (congrArg _ (substitutePass_of_not_mem h))
  | close cs rest h ih =>
    have group : (substituteGroup sheet cs).count '{' ≤ cs.count '{' := by
      rw [substituteGroup]
      cases hcut : Text.cutAtLast? '{' cs with
      | none => exact Nat.le_of_eq (List.count_append ..)
      | some cut =>
        obtain ⟨before, key⟩ := cut
        dsimp only
        cases hget : sheet.get? (.ofList key) with
        | none => exact Nat.le_of_eq (List.count_append ..)
        | some leaf =>
          have none_in_leaf := List.count_eq_zero.2 (unbraced_of_get? plain hget).1
          rw [Text.cutAtLast?_eq_some hcut, List.count_append, List.count_append, none_in_leaf]
          omega
    rw [substitutePass_close h, List.count_append, List.count_append,
      List.count_cons_of_ne (by decide)]
    omega

/-- In a text that a pass leaves as it is, no innermost group names a leaf. -/
lemma get?_eq_none_of_substitutePass {before after : List Char} (hkey : Unbraced key)
    (h : substitutePass sheet (before ++ '{' :: (key ++ '}' :: after)) =
      before ++ '{' :: (key ++ '}' :: after)) :
    sheet.get? (.ofList key) = none := by
  cases hget : sheet.get? (.ofList key) with
  | none => rfl
  | some leaf =>
    -- the pass takes the opening brace of the group away and brings no other in
    have none_in_leaf := List.count_eq_zero.2 (unbraced_of_get? plain hget).1
    have hbefore := count_substitutePass_le plain before
    have hafter := count_substitutePass_le plain after
    have hcount := congrArg (List.count '{') h
    rw [substitutePass_append_opening, substitutePass_innermost hkey, groupText_some hkey hget,
      List.count_append, List.count_append, none_in_leaf, List.count_append, List.count_cons_self,
      List.count_append, List.count_cons_of_ne (by decide)] at hcount
    omega

end Pass

/-- A text whose matched braces are groups; braces without a match are characters. -/
inductive Braced where
  /-- The end of the text. -/
  | nil
  /-- A character. -/
  | char (c : Char) (rest : Braced)
  /-- A group in braces. -/
  | group (inside rest : Braced)

namespace Braced

/-- The text with the braces of its groups. -/
def text : Braced → List Char
  | nil => []
  | char c rest => c :: rest.text
  | group inside rest => '{' :: (inside.text ++ '}' :: rest.text)

/-- How deep the groups are nested. -/
def depth : Braced → Nat
  | nil => 0
  | char _ rest => rest.depth
  | group inside rest => max (inside.depth + 1) rest.depth

/-- What is before and after the first closing brace without a match. -/
def cutAtClose? : Braced → Option (Braced × Braced)
  | nil => none
  | char c rest =>
    if c = '}' then some (nil, rest)
    else rest.cutAtClose?.map fun (before, after) => (char c before, after)
  | group inside rest => rest.cutAtClose?.map fun (before, after) => (group inside before, after)

/-- An opening brace is matched with the first closing brace after it that has no match yet. -/
def read : List Char → Braced
  | [] => nil
  | c :: cs =>
    if c = '{' then
      match (read cs).cutAtClose? with
      | some (inside, rest) => group inside rest
      | none => char c (read cs)
    else char c (read cs)

/-- The text with its groups filled in from the inside. -/
def filled (sheet : Sheet) : Braced → List Char
  | nil => []
  | char c rest => c :: rest.filled sheet
  | group inside rest => groupText sheet (inside.filled sheet) ++ rest.filled sheet

/-- Whether every brace is matched. -/
def Balanced : Braced → Prop
  | nil => True
  | char c rest => c ≠ '{' ∧ c ≠ '}' ∧ rest.Balanced
  | group inside rest => inside.Balanced ∧ rest.Balanced

/-- Whether no opening brace without a match has a closing brace without a match after it. -/
def Matched : Braced → Prop
  | nil => True
  | char c rest => (c = '{' → rest.cutAtClose? = none) ∧ rest.Matched
  | group inside rest => inside.Balanced ∧ rest.Matched

section Reading

variable {b before after : Braced}

lemma Balanced.matched (h : b.Balanced) : b.Matched := by
  induction b with
  | nil => trivial
  | char c rest ih => exact ⟨fun hc => (h.1 hc).elim, ih h.2.2⟩
  | group inside rest _ ih => exact ⟨h.1, ih h.2⟩

lemma text_cutAtClose? (h : b.cutAtClose? = some (before, after)) :
    b.text = before.text ++ '}' :: after.text := by
  induction b generalizing before with
  | nil => cases h
  | char c rest ih =>
    rw [cutAtClose?] at h
    split at h
    · next hc =>
      cases h
      rw [hc]
      rfl
    · obtain ⟨⟨first, last⟩, hcut, he⟩ := Option.map_eq_some_iff.1 h
      cases he
      exact congrArg (c :: ·) (ih hcut)
  | group inside rest _ ih =>
    obtain ⟨⟨first, last⟩, hcut, he⟩ := Option.map_eq_some_iff.1 h
    cases he
    rw [text, text, ih hcut, List.cons_append, List.append_assoc, List.cons_append]

lemma Matched.cutAtClose? (hb : b.Matched) (h : b.cutAtClose? = some (before, after)) :
    before.Balanced ∧ after.Matched := by
  induction b generalizing before with
  | nil => cases h
  | char c rest ih =>
    rw [Braced.cutAtClose?] at h
    split at h
    · cases h
      exact ⟨trivial, hb.2⟩
    · next hc =>
      obtain ⟨⟨first, last⟩, hcut, he⟩ := Option.map_eq_some_iff.1 h
      cases he
      obtain ⟨hbefore, hafter⟩ := ih hb.2 hcut
      have hopen : c ≠ '{' := by
        intro he
        rw [hb.1 he] at hcut
        cases hcut
      exact ⟨⟨hopen, hc, hbefore⟩, hafter⟩
  | group inside rest _ ih =>
    obtain ⟨⟨first, last⟩, hcut, he⟩ := Option.map_eq_some_iff.1 h
    cases he
    obtain ⟨hbefore, hafter⟩ := ih hb.2 hcut
    exact ⟨⟨hb.1, hbefore⟩, hafter⟩

/-- A text is read as itself. -/
lemma text_read (cs : List Char) : (read cs).text = cs := by
  induction cs with
  | nil => rfl
  | cons c cs ih =>
    rw [read]
    split
    · next hc =>
      split
      · next inside rest hcut =>
        rw [text, ← text_cutAtClose? hcut, ih, hc]
      · exact congrArg (c :: ·) ih
    · exact congrArg (c :: ·) ih

lemma matched_read (cs : List Char) : (read cs).Matched := by
  induction cs with
  | nil => trivial
  | cons c cs ih =>
    rw [read]
    split
    · split
      · next inside rest hcut => exact ih.cutAtClose? hcut
      · next hcut => exact ⟨fun _ => hcut, ih⟩
    · next hc => exact ⟨fun he => (hc he).elim, ih⟩

/-- Where no closing brace lacks a match, an opening brace comes before each of them. -/
lemma opensFirst_of_cutAtClose? (h : b.cutAtClose? = none) : OpensFirst b.text := by
  induction b with
  | nil => exact .nil
  | char c rest ih =>
    rw [cutAtClose?] at h
    split at h
    · cases h
    · next hc => exact .cons hc (ih (Option.map_eq_none_iff.1 h))
  | group inside rest _ _ => exact .opening

end Reading

/-- Whether there is no group. -/
def isFlat : Braced → Bool
  | nil => true
  | char _ rest => rest.isFlat
  | group _ _ => false

/-- Characters before a text. -/
def ofChars (cs : List Char) (b : Braced) : Braced :=
  cs.foldr char b

/-- The text after one pass, which fills in the innermost groups. -/
def fill (sheet : Sheet) : Braced → Braced
  | nil => nil
  | char c rest => char c (rest.fill sheet)
  | group inside rest =>
    if inside.isFlat then
      match sheet.get? (.ofList inside.text) with
      | some leaf => ofChars leaf.display.toList (rest.fill sheet)
      | none => group inside (rest.fill sheet)
    else group (inside.fill sheet) (rest.fill sheet)

section Filling

variable {sheet : Sheet} {b : Braced} {cs : List Char}

lemma text_ofChars : (ofChars cs b).text = cs ++ b.text := by
  induction cs with
  | nil => rfl
  | cons c cs ih => exact congrArg (c :: ·) ih

lemma filled_ofChars : (ofChars cs b).filled sheet = cs ++ b.filled sheet := by
  induction cs with
  | nil => rfl
  | cons c cs ih => exact congrArg (c :: ·) ih

lemma balanced_ofChars (hcs : Unbraced cs) (hb : b.Balanced) : (ofChars cs b).Balanced := by
  induction cs with
  | nil => exact hb
  | cons c cs ih =>
    obtain ⟨⟨hopen, hclose⟩, hcs⟩ := unbraced_cons_iff.1 hcs
    exact ⟨hopen, hclose, ih hcs⟩

lemma matched_ofChars (hcs : Unbraced cs) (hb : b.Matched) : (ofChars cs b).Matched := by
  induction cs with
  | nil => exact hb
  | cons c cs ih =>
    obtain ⟨⟨hopen, -⟩, hcs⟩ := unbraced_cons_iff.1 hcs
    exact ⟨fun he => (hopen he).elim, ih hcs⟩

lemma cutAtClose?_ofChars (hcs : Unbraced cs) (hb : b.cutAtClose? = none) :
    (ofChars cs b).cutAtClose? = none := by
  induction cs with
  | nil => exact hb
  | cons c cs ih =>
    obtain ⟨⟨-, hclose⟩, hcs⟩ := unbraced_cons_iff.1 hcs
    change (char c (ofChars cs b)).cutAtClose? = none
    rw [cutAtClose?, if_neg hclose, ih hcs, Option.map_none]

/-- The inside of an innermost group has no braces. -/
lemma Balanced.unbraced (h : b.Balanced) (hflat : b.isFlat = true) : Unbraced b.text := by
  induction b with
  | nil => exact ⟨List.not_mem_nil, List.not_mem_nil⟩
  | char c rest ih =>
    exact unbraced_cons_iff.2 ⟨⟨h.1, h.2.1⟩, ih h.2.2 hflat⟩
  | group inside rest => cases hflat

lemma filled_of_isFlat (hflat : b.isFlat = true) : b.filled sheet = b.text := by
  induction b with
  | nil => rfl
  | char c rest ih => exact congrArg (c :: ·) (ih hflat)
  | group inside rest => cases hflat

lemma Balanced.opensFirst {rest : List Char} (h : b.Balanced) (hflat : b.isFlat = false) :
    OpensFirst (b.text ++ rest) := by
  induction b with
  | nil => cases hflat
  | char c b ih => exact .cons h.2.1 (ih h.2.2 hflat)
  | group inside b => exact .opening

lemma not_unbraced_of_isFlat_eq_false (hflat : b.isFlat = false) : ¬Unbraced b.text := by
  intro h
  induction b with
  | nil => cases hflat
  | char c rest ih =>
    exact ih hflat ⟨fun hm => h.1 (List.mem_cons_of_mem _ hm),
      fun hm => h.2 (List.mem_cons_of_mem _ hm)⟩
  | group inside rest => exact h.1 List.mem_cons_self

end Filling

/-- How many passes may still fill in a group; one that names no leaf holds up those around it. -/
def pending (sheet : Sheet) : Braced → Nat
  | nil => 0
  | char _ rest => rest.pending sheet
  | group inside rest =>
    let levels :=
      if inside.isFlat then if (sheet.get? (.ofList inside.text)).isSome then 1 else 0
      else if inside.pending sheet = 0 then 0 else inside.pending sheet + 1
    max levels (rest.pending sheet)

section Pending

variable {sheet : Sheet} {b : Braced} {cs : List Char}

lemma pending_le_depth (b : Braced) : b.pending sheet ≤ b.depth := by
  induction b with
  | nil => exact Nat.le_refl 0
  | char c rest ih => exact ih
  | group inside rest ihi ihr =>
    rw [pending, depth]
    split
    · split <;> omega
    · split <;> omega

lemma pending_ofChars : (ofChars cs b).pending sheet = b.pending sheet := by
  induction cs with
  | nil => rfl
  | cons c cs ih => exact ih

lemma fill_of_pending_eq_zero (h : b.pending sheet = 0) : b.fill sheet = b := by
  induction b with
  | nil => rfl
  | char c rest ih => exact congrArg (char c) (ih h)
  | group inside rest ihi ihr =>
    rw [pending] at h
    obtain ⟨hlevels, hrest⟩ := Nat.max_eq_zero_iff.1 h
    rw [fill, ihr hrest]
    split
    · next hflat =>
      rw [if_pos hflat] at hlevels
      cases hget : sheet.get? (.ofList inside.text) with
      | none => rfl
      | some leaf =>
        rw [hget] at hlevels
        cases hlevels
    · next hflat =>
      rw [if_neg hflat] at hlevels
      split at hlevels
      · next hinside => rw [ihi hinside]
      · cases hlevels

/-- A pass leaves one level less to fill in. -/
lemma pending_fill (b : Braced) : (b.fill sheet).pending sheet ≤ b.pending sheet - 1 := by
  induction b with
  | nil => exact Nat.le_refl 0
  | char c rest ih => exact ih
  | group inside rest ihi ihr =>
    rw [fill, pending]
    split
    · next hflat =>
      cases hget : sheet.get? (.ofList inside.text) with
      | none =>
        dsimp only
        rw [pending, if_pos hflat, hget]
        simpa using ihr
      | some leaf =>
        dsimp only
        rw [pending_ofChars]
        omega
    · next hflat =>
      rw [pending]
      by_cases hnone : inside.pending sheet = 0
      · rw [fill_of_pending_eq_zero hnone, if_neg hflat, if_pos hnone]
        omega
      · rw [if_neg hnone]
        split
        · split <;> omega
        · split <;> omega

end Pending

section Passes

variable {sheet : Sheet} {b : Braced} {rest : List Char}
  (plain : ∀ e ∈ sheet.entries, Unbraced e.2.display.toList)

/-- What is settled reads as it is filled in: each group that is left keeps its braces. -/
lemma filled_of_pending_eq_zero (hb : b.Matched) (h : b.pending sheet = 0) :
    b.filled sheet = b.text := by
  induction b with
  | nil => rfl
  | char c rest ih => exact congrArg (c :: ·) (ih hb.2 h)
  | group inside rest ihi ihr =>
    rw [pending] at h
    obtain ⟨hlevels, hrest⟩ := Nat.max_eq_zero_iff.1 h
    rw [filled, text, ihr hb.2 hrest]
    cases hflat : inside.isFlat with
    | true =>
      rw [if_pos hflat] at hlevels
      rw [filled_of_isFlat hflat]
      cases hget : sheet.get? (.ofList inside.text) with
      | none => simp [groupText_none hget]
      | some leaf =>
        rw [hget] at hlevels
        cases hlevels
    | false =>
      rw [if_neg (Bool.eq_false_iff.1 hflat)] at hlevels
      split at hlevels
      · next hinside =>
        rw [ihi hb.1.matched hinside,
          groupText_of_not_unbraced (not_unbraced_of_isFlat_eq_false hflat)]
        simp
      · cases hlevels

/-- A pass over matched braces, whatever comes after them. -/
lemma substitutePass_balanced (h : b.Balanced) :
    substitutePass sheet (b.text ++ rest) = (b.fill sheet).text ++ substitutePass sheet rest := by
  induction b generalizing rest with
  | nil => rfl
  | char c b ih =>
    rw [text, List.cons_append, substitutePass_cons h.1, ih h.2.2]
    rfl
  | group inside b ihi ihr =>
    have hclose : ('}' : Char) ≠ '{' := by decide
    rw [text, List.cons_append, List.append_assoc, List.cons_append, fill]
    cases hflat : inside.isFlat with
    | true =>
      rw [if_pos rfl, substitutePass_innermost (h.1.unbraced hflat), ihr h.2]
      cases hget : sheet.get? (.ofList inside.text) with
      | none => simp [groupText_none hget, text]
      | some leaf =>
        rw [groupText_some (h.1.unbraced hflat) hget]
        simp [text_ofChars]
    | false =>
      rw [if_neg (by decide), substitutePass_opening (h.1.opensFirst hflat), ihi h.1,
        substitutePass_cons hclose, ihr h.2]
      simp [text]

lemma text_fill_group {inside : Braced} :
    ((group inside b).fill sheet).text =
      ((group inside nil).fill sheet).text ++ (b.fill sheet).text := by
  rw [fill, fill]
  cases inside.isFlat with
  | true =>
    cases sheet.get? (.ofList inside.text) with
    | none => simp [text, fill]
    | some leaf => simp [text, fill, text_ofChars]
  | false => simp [text, fill]

/-- A pass fills in the innermost groups. -/
lemma substitutePass_matched (h : b.Matched) :
    substitutePass sheet b.text = (b.fill sheet).text := by
  induction b with
  | nil => rfl
  | char c b ih =>
    by_cases hc : c = '{'
    · subst hc
      rw [text, substitutePass_opening (opensFirst_of_cutAtClose? (h.1 rfl)), ih h.2]
      rfl
    · rw [text, substitutePass_cons hc, ih h.2]
      rfl
  | group inside b _ ih =>
    have hgroup : (group inside nil).Balanced := ⟨h.1, trivial⟩
    have hpass := @substitutePass_balanced sheet _ b.text hgroup
    rw [ih h.2] at hpass
    have htext : (group inside b).text = (group inside nil).text ++ b.text := by simp [text]
    rw [htext, hpass, ← text_fill_group]

/-- Filling in the innermost groups leads to the same end. -/
lemma filled_fill (h : b.Matched) : (b.fill sheet).filled sheet = b.filled sheet := by
  induction b with
  | nil => rfl
  | char c rest ih => exact congrArg (c :: ·) (ih h.2)
  | group inside rest ihi ihr =>
    rw [fill]
    split
    · next hflat =>
      split
      · next leaf hget =>
        rw [filled_ofChars, ihr h.2, filled, filled_of_isFlat hflat,
          groupText_some (h.1.unbraced hflat) hget]
      · rw [filled, ihr h.2, filled]
    · rw [filled, ihi h.1.matched, ihr h.2, filled]

include plain

lemma balanced_fill (h : b.Balanced) : (b.fill sheet).Balanced := by
  induction b with
  | nil => trivial
  | char c rest ih => exact ⟨h.1, h.2.1, ih h.2.2⟩
  | group inside rest ihi ihr =>
    rw [fill]
    split
    · split
      · next leaf hget => exact balanced_ofChars (unbraced_of_get? plain hget) (ihr h.2)
      · exact ⟨h.1, ihr h.2⟩
    · exact ⟨ihi h.1, ihr h.2⟩

lemma cutAtClose?_fill (h : b.cutAtClose? = none) : (b.fill sheet).cutAtClose? = none := by
  induction b with
  | nil => rfl
  | char c rest ih =>
    rw [cutAtClose?] at h
    split at h
    · cases h
    · next hc => rw [fill, cutAtClose?, if_neg hc, ih (Option.map_eq_none_iff.1 h), Option.map_none]
  | group inside rest _ ih =>
    have hrest := ih (Option.map_eq_none_iff.1 h)
    rw [fill]
    split
    · split
      · next leaf hget => exact cutAtClose?_ofChars (unbraced_of_get? plain hget) hrest
      · rw [cutAtClose?, hrest, Option.map_none]
    · rw [cutAtClose?, hrest, Option.map_none]

lemma matched_fill (h : b.Matched) : (b.fill sheet).Matched := by
  induction b with
  | nil => trivial
  | char c rest ih => exact ⟨fun hc => cutAtClose?_fill plain (h.1 hc), ih h.2⟩
  | group inside rest _ ih =>
    rw [fill]
    split
    · split
      · next leaf hget => exact matched_ofChars (unbraced_of_get? plain hget) (ih h.2)
      · exact ⟨h.1, ih h.2⟩
    · exact ⟨balanced_fill plain h.1, ih h.2⟩

/-- What passes keep and what they get done. -/
lemma passes (n : Nat) (h : b.Matched) :
    ∃ after : Braced, Nat.repeat (substitutePass sheet) n b.text = after.text ∧ after.Matched ∧
      after.filled sheet = b.filled sheet ∧ after.pending sheet ≤ b.pending sheet - n := by
  induction n with
  | zero => exact ⟨b, rfl, h, rfl, Nat.le_refl _⟩
  | succ n ih =>
    obtain ⟨after, htext, hafter, hfilled, hpending⟩ := ih
    refine ⟨after.fill sheet, ?_, matched_fill plain hafter, ?_, ?_⟩
    · rw [Nat.repeat, htext, substitutePass_matched hafter]
    · rw [filled_fill hafter, hfilled]
    · have hfill : (after.fill sheet).pending sheet ≤ after.pending sheet - 1 := pending_fill after
      omega

end Passes

end Braced

section Substitute

variable {sheet : Sheet} {text : String} (plain : ∀ e ∈ sheet.entries, Unbraced e.2.display.toList)
include plain

/-- As many passes as there are levels settle a text. -/
lemma substitute_levels (hdeep : (Braced.read text.toList).depth ≤ maxPasses) :
    (substitute sheet text).toList = (Braced.read text.toList).filled sheet ∧
      substitutePass sheet (substitute sheet text).toList = (substitute sheet text).toList := by
  obtain ⟨after, htext, hafter, hfilled, hpending⟩ :=
    Braced.passes plain maxPasses (Braced.matched_read text.toList)
  have hlevels : (Braced.read text.toList).pending sheet ≤ (Braced.read text.toList).depth :=
    Braced.pending_le_depth _
  have hnone : after.pending sheet = 0 := by omega
  rw [Braced.text_read] at htext
  rw [substitute, String.toList_ofList, htext]
  constructor
  · rw [← hfilled, Braced.filled_of_pending_eq_zero hafter hnone]
  · rw [Braced.substitutePass_matched hafter, Braced.fill_of_pending_eq_zero hnone]

end Substitute

/--
Where no leaf is displayed with braces, a text whose groups are nested sixteen deep at most is filled
in from the inside to the end: no innermost group that is left names a leaf, and filling the text in
again changes nothing. Groups that name no leaf and all that stands outside of groups stay.
-/
theorem substitute_settled (sheet : Sheet) (text : String)
    (plain : ∀ e ∈ sheet.entries, Unbraced e.2.display.toList)
    (hdeep : (Braced.read text.toList).depth ≤ 16) :
    substitute sheet text = .ofList ((Braced.read text.toList).filled sheet) ∧
      (∀ before key after,
        (substitute sheet text).toList = before ++ '{' :: (key ++ '}' :: after) →
          Unbraced key → sheet.get? (.ofList key) = none) ∧
      substitute sheet (substitute sheet text) = substitute sheet text := by
  obtain ⟨hfilled, hpass⟩ := substitute_levels plain hdeep
  refine ⟨?_, ?_, ?_⟩
  · rw [← hfilled, String.ofList_toList]
  · intro before key after htext hkey
    rw [htext] at hpass
    exact get?_eq_none_of_substitutePass plain hkey hpass
  · have again : ∀ n, Nat.repeat (substitutePass sheet) n (substitute sheet text).toList =
        (substitute sheet text).toList := by
      intro n
      induction n with
      | zero => rfl
      | succ n ih => rw [Nat.repeat, ih, hpass]
    rw [substitute, again, String.ofList_toList]

/-- A sheet with fruits, and which one is picked. -/
def fruitBowl : Sheet :=
  .ofList [("pick", .number 2), ("fruits.2", .text "banana")]

/-- A group in a group, one in a group that names no leaf, and braces without a match. -/
def fruitOrder : String :=
  "I eat \x7bfruits.\x7bpick\x7d\x7d \x7bor \x7bno \x7bpick\x7d\x7d bread\x7d\x7d\x7b"

/-- The order with the groups that name a leaf filled in. -/
def settledOrder : String :=
  "I eat banana \x7bor \x7bno 2\x7d bread\x7d\x7d\x7b"

/-- What is left of the order keeps the braces that are not filled in. -/
theorem substitute_settled_fruitOrder :
    (∀ e ∈ fruitBowl.entries, Unbraced e.2.display.toList) ∧
      (Braced.read fruitOrder.toList).depth = 3 ∧
      substitute fruitBowl fruitOrder = settledOrder ∧
      fruitBowl.get? "no 2" = none ∧
      substitute fruitBowl settledOrder = settledOrder := by
  have plain : ∀ e ∈ fruitBowl.entries, Unbraced e.2.display.toList := by decide +kernel
  have depth : (Braced.read fruitOrder.toList).depth = 3 := by decide +kernel
  have filled : (Braced.read fruitOrder.toList).filled fruitBowl = settledOrder.toList := by
    decide +kernel
  have parts : settledOrder.toList =
      "I eat banana \x7bor ".toList ++
        '{' :: ("no 2".toList ++ '}' :: " bread\x7d\x7d\x7b".toList) := by
    decide +kernel
  obtain ⟨hfilled, none_left, again⟩ :=
    substitute_settled fruitBowl fruitOrder plain (depth.le.trans (by decide))
  rw [filled, String.ofList_toList] at hfilled
  rw [hfilled] at none_left again
  exact ⟨plain, depth, hfilled, none_left _ _ _ parts (by decide), again⟩

/-- Seventeen levels take one pass more than there are. -/
example :
    substitute (.ofList [("a", .text "a")])
      (.ofList (List.replicate 17 '{' ++ 'a' :: List.replicate 17 '}')) = "\x7ba\x7d" := by
  decide +kernel

end Gamebook
