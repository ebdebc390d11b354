import Gamebook.Proofs.Accounts
import Gamebook.Proofs.Diceless
import Gamebook.Proofs.Groups

/-!
# Assignments in any order

Where neither the leaves nor an action have braces or brackets, an assignment is filled in with the
leaf at its own path and with nothing else, and it rolls no dice. So what it does is decided by the
leaves from before the action, and the order of the assignments only decides in which order they are
told of. Main definitions: `Unmarked`, `Assignment.alone`. Main statement: `Action.run_perm`.
-/

namespace Gamebook

/-- Whether a text has no braces and no brackets. -/
def Unmarked (text : String) : Prop :=
  ∀ c ∈ ['{', '}', '[', ']'], c ∉ text.toList

instance (text : String) : Decidable (Unmarked text) :=
  List.decidableBAll (· ∉ text.toList) _

namespace Unmarked

variable {text other : String} (h : Unmarked text)
include h

lemma opening : '{' ∉ text.toList :=
  h _ (by simp)

lemma closing : '}' ∉ text.toList :=
  h _ (by simp)

lemma diceless : Diceless text :=
  h _ (by simp)

lemma append (ho : Unmarked other) : Unmarked (text ++ other) := by
  intro c hc
  rw [String.toList_append, List.mem_append, not_or]
  exact ⟨h c hc, ho c hc⟩

/-- A part at the end of a text has no marks if the text has none. -/
lemma ending (front : List Char) {rest : List Char} (e : text.toList = front ++ rest) :
    Unmarked (.ofList rest) := by
  intro c hc
  rw [String.toList_ofList]
  exact fun hm => h c hc (e ▸ List.mem_append_right _ hm)

end Unmarked

/-- No mark is displayed. -/
lemma not_displayed {c : Char} (h : c ∈ ['{', '}', '[', ']']) : ¬Number.Displayed c := by
  rw [Number.Displayed]
  revert c
  simp only [List.forall_mem_cons]
  exact ⟨by decide, by decide, by decide, by decide, List.forall_mem_nil _⟩

lemma unmarked_display {x : Float} : Unmarked (Number.display x) :=
  fun _ hc hmem => not_displayed hc (Number.mem_display hmem)

/-- The text of an assignment with the leaf from before in its place. -/
def filledText (prior : Scalar) : Scalar → String
  | .number x => Number.display x
  | .text s =>
    match s.toList with
    | '+' :: '=' :: rest => prior.display ++ " + " ++ .ofList rest
    | '-' :: '=' :: rest => prior.display ++ " - (" ++ .ofList rest ++ ")"
    | _ => s

/-- What an assignment does on its own: an absent leaf counts as zero, and there are no dice. -/
def Assignment.alone (sheet : Sheet) (leaf : String × Scalar) : Assignment where
  path := leaf.1
  raw := leaf.2
  prior := sheet.get? leaf.1
  outcome :=
    ⟨leafOfText .empty (filledText ((sheet.get? leaf.1).getD (.number 0)) leaf.2), none⟩

section Alone

variable {sheet : Sheet} {path : String} {prior raw : Scalar} {g : Generator}

lemma unmarked_filledText (hprior : Unmarked prior.display) (hraw : Unmarked raw.display) :
    Unmarked (filledText prior raw) := by
  cases raw with
  | number x => exact unmarked_display
  | text s =>
    have hraw : Unmarked s := hraw
    rw [filledText]
    split
    · next rest e =>
      exact (hprior.append (by decide)).append (hraw.ending ['+', '='] e)
    · next rest e =>
      exact ((hprior.append (by decide)).append (hraw.ending ['-', '='] e)).append
        (by decide)
    · exact hraw

/-- The leaf from before has the place of the group, if the assignment has one. -/
lemma filledText_cases (path : String) (prior raw : Scalar) :
    assignedText path raw = filledText prior raw ∨
      ∃ rest, assignedText path raw = .ofList ('{' :: (path.toList ++ '}' :: rest)) ∧
        filledText prior raw = .ofList (prior.display.toList ++ rest) := by
  -- a text with a sign in front of it is one with a group for the leaf from before
  cases raw with
  | number x => exact .inl rfl
  | text s =>
    rw [assignedText]
    split
    · next rest e =>
      have hfilled : filledText prior (.text s) = prior.display ++ " + " ++ .ofList rest := by
        simp only [filledText, e]
      refine .inr ⟨' ' :: '+' :: ' ' :: rest, ?_, ?_⟩
      · apply String.toList_inj.1
        simp
      · apply String.toList_inj.1
        simp [hfilled]
    · next rest e =>
      have hfilled :
          filledText prior (.text s) = prior.display ++ " - (" ++ .ofList rest ++ ")" := by
        simp only [filledText, e]
      refine .inr ⟨' ' :: '-' :: ' ' :: '(' :: rest ++ [')'], ?_, ?_⟩
      · apply String.toList_inj.1
        simp
      · apply String.toList_inj.1
        simp [hfilled]
    · next hadd hsub =>
      left
      rw [filledText]
      split
      · next rest e => exact (hadd rest e).elim
      · next rest e => exact (hsub rest e).elim
      · rfl

/-- Only the leaf at the path itself is filled in. -/
lemma substitute_assignedText (hpath : Unmarked path) (hget : sheet.get? path = some prior)
    (hprior : Unmarked prior.display) (hraw : Unmarked raw.display) :
    substitute sheet (assignedText path raw) = filledText prior raw := by
  have hclose := (unmarked_filledText hprior hraw).closing
  obtain e | ⟨rest, htext, hfilled⟩ := filledText_cases path prior raw
  · rw [e]
    exact substitute_of_not_mem hclose
  · rw [hfilled, String.toList_ofList] at hclose
    have hrest : '}' ∉ rest := fun h => hclose (List.mem_append_right _ h)
    rw [hfilled, htext]
    refine substitute_eq ?_ hclose
    rw [String.toList_ofList, substitutePass_group hpath.opening hpath.closing
      (by rwa [String.ofList_toList]), substitutePass_of_not_mem hrest]

/-- A text without marks stands for the same leaf on every sheet. -/
lemma leafOfText_unmarked {text : String} (h : Unmarked text) :
    leafOfText sheet text = leafOfText .empty text := by
  rw [leafOfText, leafOfText, substitute_of_not_mem h.closing, substitute_of_not_mem h.closing]

/-- An assignment without marks does what it does on its own, and rolls no dice. -/
lemma assignedValue_unmarked (hpath : Unmarked path) (hget : sheet.get? path = some prior)
    (hprior : Unmarked prior.display) (hraw : Unmarked raw.display) :
    assignedValue path raw sheet g = (⟨leafOfText .empty (filledText prior raw), none⟩, g) := by
  have hfilled := unmarked_filledText hprior hraw
  rw [assignedValue, substitute_assignedText hpath hget hprior hraw,
    rollTerms_diceless hfilled.diceless, ← leafOfText_unmarked hfilled]

end Alone

/-- The leaf at a path that an action assigns to, as its expressions see it. -/
lemma get?_scope_of_mem {assignments sheet : Sheet} {path : String} (h : path ∈ assignments.keys) :
    (scope assignments sheet).get? path = some ((sheet.get? path).getD (.number 0)) := by
  rw [get?_scope, if_pos h]
  cases sheet.get? path <;> rfl

namespace Makes

variable {assignments sheet last : Sheet} {g g' : Generator} {made : List Assignment}
  {leaves : List (String × Scalar)}

/-- Assignments without marks do what they do on their own, and no dice are rolled. -/
lemma eq_alone (h : Makes assignments sheet g made last g')
    (hleaves : made.map (fun a => (a.path, a.raw)) = leaves)
    (hnodup : (Ordered.keys leaves).Nodup) (hkeys : Ordered.keys leaves ⊆ assignments.keys)
    (hmarks : ∀ e ∈ leaves, Unmarked e.1 ∧ Unmarked e.2.display)
    (hprior : ∀ path ∈ Ordered.keys leaves, ∀ leaf, sheet.get? path = some leaf →
      Unmarked leaf.display) :
    made = leaves.map (.alone sheet) ∧ g' = g := by
  induction h generalizing leaves with
  | done =>
    subst hleaves
    exact ⟨rfl, rfl⟩
  | @next sheet g path raw outcome g' made last g'' hvalue _ ih =>
    subst hleaves
    simp only [List.map_cons, Ordered.keys, List.nodup_cons, List.cons_subset, List.forall_mem_cons]
      at hnodup hkeys hmarks hprior
    obtain ⟨hnew, hnodup⟩ := hnodup
    obtain ⟨⟨hpath, hraw⟩, hmarks⟩ := hmarks
    -- the leaf from before is a leaf of the sheet or zero
    have hseen : Unmarked ((sheet.get? path).getD (.number 0)).display := by
      cases hget : sheet.get? path with
      | none => exact unmarked_display
      | some leaf => exact hprior.1 leaf hget
    rw [assignedValue_unmarked hpath (get?_scope_of_mem hkeys.1) hseen hraw,
      Prod.mk.injEq] at hvalue
    obtain ⟨rfl, rfl⟩ := hvalue
    have hother : ∀ q ∈ Ordered.keys (made.map fun a => (a.path, a.raw)), q ≠ path :=
      fun q hq => ne_of_mem_of_not_mem hq hnew
    obtain ⟨hmade, hg⟩ := ih rfl hnodup hkeys.2 hmarks fun q hq leaf hget => by
      rw [Sheet.get?_insert, if_neg (hother q hq)] at hget
      exact hprior.2 q hq leaf hget
    refine ⟨?_, hg⟩
    rw [List.map_cons]
    refine congrArg₂ List.cons rfl (hmade.trans (List.map_congr_left fun e he => ?_))
    have hne : e.1 ≠ path := hother e.1 (List.mem_map_of_mem he)
    rw [Assignment.alone, Assignment.alone, Sheet.get?_insert, if_neg hne]

end Makes

/-- The leaf at a path after assignments to different paths, whatever their order is. -/
lemma Makes.get?_perm {assignments assignments' sheet last last' : Sheet} {g g' r r' : Generator}
    {made made' : List Assignment} (h : Makes assignments sheet g made last r)
    (h' : Makes assignments' sheet g' made' last' r') (hperm : made.Perm made')
    (hnodup : (made.map (·.path)).Nodup) (path : String) : last.get? path = last'.get? path := by
  have hpaths := hperm.map (·.path)
  by_cases hpath : path ∈ made.map (·.path)
  · obtain ⟨a, ha, rfl⟩ := List.mem_map.1 hpath
    rw [(h.get?_of_mem hnodup a ha).1,
      (h'.get?_of_mem (hpaths.nodup_iff.1 hnodup) a (hperm.mem_iff.1 ha)).1]
  · rw [h.get?_of_not_mem hpath, h'.get?_of_not_mem (mt hpaths.mem_iff.2 hpath)]

/-- An action without marks makes the assignments that its entries make on their own. -/
lemma Action.run_alone {action : Action} {sheet : Sheet} (g : Generator)
    (hsheet : ∀ e ∈ sheet.entries, Unmarked e.2.display)
    (hmarks : ∀ e ∈ action.state.flatten.entries, Unmarked e.1 ∧ Unmarked e.2.display) :
    let result := action.run sheet g
    let made := action.state.flatten.entries.map (.alone sheet)
    Makes action.state.flatten sheet g made result.1.sheet result.2 ∧ result.2 = g ∧
      result.1.audit = ", ".intercalate ((made.filter (·.reported)).map (·.entry)) := by
  obtain ⟨made, hmade, hleaves, hentries⟩ :=
    Makes.exists_made action.state.flatten action.state.flatten.entries sheet g
  obtain ⟨rfl, hg⟩ := hmade.eq_alone hleaves action.state.flatten.nodup (List.Subset.refl _) hmarks
    fun path _ leaf hget => by
      obtain ⟨before, after, hsplit, -⟩ := Ordered.split_of_get? hget
      exact hsheet (path, leaf) (hsplit ▸ List.mem_append_right _ List.mem_cons_self)
  exact ⟨hmade, hg, congrArg _ hentries⟩

/--
Two actions with the same assignments in different orders, where neither these nor the leaves before
have braces or brackets, make the same assignments up to order, each with the same leaf before and
the same outcome. So they leave the same leaf at every path, and their accounts have the same
entries up to order, whatever generators they are given. No dice are rolled.
-/
theorem Action.run_perm {a b : Action} {sheet : Sheet}
    (hperm : a.state.flatten.entries.Perm b.state.flatten.entries)
    (hsheet : ∀ e ∈ sheet.entries, Unmarked e.2.display)
    (hmarks : ∀ e ∈ a.state.flatten.entries, Unmarked e.1 ∧ Unmarked e.2.display)
    (g g' : Generator) :
    let first := a.run sheet g
    let second := b.run sheet g'
    (∀ path, first.1.sheet.get? path = second.1.sheet.get? path) ∧
      (∃ made made', made.Perm made' ∧
        Makes a.state.flatten sheet g made first.1.sheet first.2 ∧
        Makes b.state.flatten sheet g' made' second.1.sheet second.2 ∧
        first.1.audit = ", ".intercalate ((made.filter (·.reported)).map (·.entry)) ∧
        second.1.audit = ", ".intercalate ((made'.filter (·.reported)).map (·.entry))) ∧
      first.2 = g ∧ second.2 = g' := by
  have hmarks' : ∀ e ∈ b.state.flatten.entries, Unmarked e.1 ∧ Unmarked e.2.display :=
    fun e he => hmarks e (hperm.mem_iff.2 he)
  obtain ⟨hmade, hg, haudit⟩ := run_alone g hsheet hmarks
  obtain ⟨hmade', hg', haudit'⟩ := run_alone g' hsheet hmarks'
  have hmadePerm := hperm.map (Assignment.alone sheet)
  have hnodup : ((a.state.flatten.entries.map (Assignment.alone sheet)).map (·.path)).Nodup := by
    rw [List.map_map]
    exact a.state.flatten.nodup
  exact ⟨hmade.get?_perm hmade' hmadePerm hnodup,
    ⟨_, _, hmadePerm, hmade, hmade', haudit, haudit'⟩, hg, hg'⟩

/-- A rest at a camp: some gold is lost, strength grows, and the mood is written down. -/
def campRest : Action :=
  .setting <| State.empty.insertPath ["gold"] (.text "-=1+2")
    |>.insertPath ["hero", "hp"] (.text "+=5") |>.insertPath ["mood"] (.text "at ease")
    |>.insertPath ["fire"] (.text "2 > 1")

/-- The same rest told the other way round. -/
def campRestBackwards : Action :=
  .setting <| State.empty.insertPath ["fire"] (.text "2 > 1")
    |>.insertPath ["mood"] (.text "at ease") |>.insertPath ["hero", "hp"] (.text "+=5")
    |>.insertPath ["gold"] (.text "-=1+2")

/-- Whichever way the rest is told, the hero gains and pays the same. -/
theorem Action.run_perm_campRest :
    let sheet := Sheet.ofList [("gold", .number 10), ("hero.hp", .text "3")]
    let first := campRest.run sheet (.ofSeed 1)
    let second := campRestBackwards.run sheet (.ofSeed 2)
    campRest.state.flatten.entries.Perm campRestBackwards.state.flatten.entries ∧
      (∀ e ∈ sheet.entries, Unmarked e.2.display) ∧
      (∀ e ∈ campRest.state.flatten.entries, Unmarked e.1 ∧ Unmarked e.2.display) ∧
      first.1.sheet.get? "gold" = some (.number 7) ∧
      second.1.sheet.get? "gold" = some (.number 7) ∧
      first.1.audit = "gold: 10 -> 7, hero.hp: 3 -> 8, mood: at ease, fire: true" ∧
      second.1.audit = "fire: true, mood: at ease, hero.hp: 3 -> 8, gold: 10 -> 7" ∧
      second.2 = .ofSeed 2 := by
  intro sheet first second
  have hperm : campRest.state.flatten.entries.Perm campRestBackwards.state.flatten.entries := by
    decide +kernel
  have hsheet : ∀ e ∈ sheet.entries, Unmarked e.2.display := by decide +kernel
  have hmarks : ∀ e ∈ campRest.state.flatten.entries, Unmarked e.1 ∧ Unmarked e.2.display := by
    decide +kernel
  obtain ⟨same, -, -, hg⟩ := run_perm hperm hsheet hmarks (.ofSeed 1) (.ofSeed 2)
  have hgold : first.1.sheet.get? "gold" = some (.number 7) := by decide +kernel
  exact ⟨hperm, hsheet, hmarks, hgold, (same "gold").symm.trans hgold, by decide +kernel,
    by decide +kernel, hg⟩

end Gamebook
