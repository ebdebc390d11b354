import Gamebook.Proofs.Merging

/-!
# Accounts of actions

An action makes its assignments in order: each value is found with the leaves that the ones before
have left, where the absent ones among the paths of the action count as zero. New paths come behind
the old ones, no other path gets or loses a leaf, and the account has an entry for each assignment
that there is something to tell about. Main definitions: `Assignment`, `Makes`. Main statement:
`Action.run_account`.
-/

namespace Gamebook

/-- An assignment that was made. -/
structure Assignment where
  /-- The path. -/
  path : String
  /-- The value that the action has for the path. -/
  raw : Scalar
  /-- The leaf at the path before. -/
  prior : Option Scalar
  /-- The new leaf and the dice rolled for it. -/
  outcome : Assigned

namespace Assignment

/-- Whether there is something to tell: a new path, a leaf displayed differently, or dice. -/
def reported (a : Assignment) : Bool :=
  a.prior.isNone || a.prior.map Scalar.display != some a.outcome.leaf.display ||
    a.outcome.trail.isSome

/-- What is told of an assignment. -/
def entry (a : Assignment) : String :=
  let value := a.outcome.leaf.display
  match a.prior, a.outcome.trail with
  | none, none => a.path ++ ": " ++ value
  | none, some trail => a.path ++ ": " ++ trail ++ "-> " ++ value
  | some old, none => a.path ++ ": " ++ old.display ++ " -> " ++ value
  | some old, some trail => a.path ++ ": " ++ old.display ++ " -" ++ trail ++ "-> " ++ value

lemma auditEntry?_eq (a : Assignment) :
    auditEntry? a.path a.prior a.outcome = if a.reported then some a.entry else none := by
  obtain ⟨path, raw, prior, leaf, trail⟩ := a
  cases prior with
  | none => cases trail <;> rfl
  | some old =>
    cases trail with
    | some trail => simp [reported, entry, auditEntry?]
    | none => by_cases h : old.display = leaf.display <;> simp [reported, entry, auditEntry?, h]

end Assignment

/-- The assignments that lead from leaves and a generator to others, made one after the other. -/
inductive Makes (assignments : Sheet) :
    Sheet → Generator → List Assignment → Sheet → Generator → Prop where
  | done {sheet g} : Makes assignments sheet g [] sheet g
  | next {sheet g path raw outcome g' made last g''} :
    assignedValue path raw (scope assignments sheet) g = (outcome, g') →
    Makes assignments (sheet.insert path outcome.leaf) g' made last g'' →
    Makes assignments sheet g (⟨path, raw, sheet.get? path, outcome⟩ :: made) last g''

/-- Absent leaves at the assigned paths count as zero. -/
lemma get?_scope {assignments sheet : Sheet} {path : String} :
    (scope assignments sheet).get? path =
      (sheet.get? path).or (if path ∈ assignments.keys then some (.number 0) else none) := by
  have zeros : Ordered.get? path (assignments.keys.map fun q => (q, Scalar.number 0)) =
      if path ∈ assignments.keys then some (.number 0) else none := by
    induction assignments.keys with
    | nil => rfl
    | cons q paths ih =>
      by_cases h : q = path
      · simp [Ordered.get?, h]
      · simp [Ordered.get?, h, Ne.symm h, ih]
  have nodup : (Ordered.keys (assignments.keys.map fun q => (q, Scalar.number 0))).Nodup := by
    rw [Ordered.keys, List.map_map]
    exact (List.map_id _).symm ▸ assignments.nodup
  rw [scope, Sheet.get?_overlay, Sheet.get?, Sheet.get?, Sheet.entries_ofList nodup, zeros]

namespace Makes

variable {assignments sheet last : Sheet} {g g' : Generator} {made : List Assignment}
  {path : String}

/-- Whatever leaves it starts from, an action makes its assignments. -/
lemma exists_made (assignments : Sheet) (leaves : List (String × Scalar)) (sheet : Sheet)
    (g : Generator) :
    let result := assignAll assignments leaves sheet g
    ∃ made, Makes assignments sheet g made result.1.sheet result.2 ∧
      made.map (fun a => (a.path, a.raw)) = leaves ∧
      result.1.entries = (made.filter (·.reported)).map (·.entry) := by
  induction leaves generalizing sheet g with
  | nil => exact ⟨[], .done, rfl, rfl⟩
  | cons leaf leaves ih =>
    obtain ⟨path, raw⟩ := leaf
    obtain ⟨outcome, g', hvalue⟩ : ∃ outcome g',
        assignedValue path raw (scope assignments sheet) g = (outcome, g') := ⟨_, _, rfl⟩
    obtain ⟨made, hmade, hleaves, hentries⟩ := ih (sheet.insert path outcome.leaf) g'
    refine ⟨⟨path, raw, sheet.get? path, outcome⟩ :: made, ?_, ?_, ?_⟩
    · simp only [assignAll, hvalue]
      exact .next hvalue hmade
    · rw [List.map_cons, hleaves]
    · have hentry := Assignment.auditEntry?_eq ⟨path, raw, sheet.get? path, outcome⟩
      simp only [assignAll, hvalue, hentries, hentry, List.filter_cons]
      split <;> rfl

variable (h : Makes assignments sheet g made last g')
include h

/-- Paths that nothing is assigned to keep their leaves. -/
lemma get?_of_not_mem (hpath : path ∉ made.map (·.path)) : last.get? path = sheet.get? path := by
  induction h with
  | done => rfl
  | next _ _ ih =>
    rw [List.map_cons, List.mem_cons, not_or] at hpath
    rw [ih hpath.2, Sheet.get?_insert, if_neg hpath.1]

/-- Each path has the leaf that was assigned, and the leaf before was there from the start. -/
lemma get?_of_mem (hnodup : (made.map (·.path)).Nodup) :
    ∀ a ∈ made, last.get? a.path = some a.outcome.leaf ∧ a.prior = sheet.get? a.path := by
  induction h with
  | done => exact List.forall_mem_nil _
  | @next sheet g path raw outcome g' made last g'' _ hmade ih =>
    rw [List.map_cons, List.nodup_cons] at hnodup
    refine List.forall_mem_cons.2 ⟨⟨?_, rfl⟩, fun a ha => ?_⟩
    · rw [hmade.get?_of_not_mem hnodup.1, Sheet.get?_insert, if_pos rfl]
    · obtain ⟨hleaf, hprior⟩ := ih hnodup.2 a ha
      have hne : a.path ≠ path := ne_of_mem_of_not_mem (List.mem_map_of_mem ha) hnodup.1
      rw [Sheet.get?_insert, if_neg hne] at hprior
      exact ⟨hleaf, hprior⟩

/-- New paths come behind the old ones in the order of the assignments. -/
lemma keys_eq (hnodup : (made.map (·.path)).Nodup) :
    last.keys = sheet.keys ++ (made.map (·.path)).filter (· ∉ sheet.keys) := by
  induction h with
  | done => simp
  | @next sheet g path raw outcome g' made last g'' _ _ ih =>
    rw [List.map_cons, List.nodup_cons] at hnodup
    rw [ih hnodup.2, Sheet.keys_insert, List.map_cons, List.filter_cons]
    by_cases hpath : path ∈ sheet.keys
    · simp only [hpath, if_true, not_true_eq_false, decide_false, Bool.false_eq_true, if_false]
    · have hlater : (made.map (·.path)).filter (· ∉ sheet.keys ++ [path]) =
          (made.map (·.path)).filter (· ∉ sheet.keys) := by
        refine List.filter_congr fun q hq => ?_
        have hne : q ≠ path := ne_of_mem_of_not_mem hq hnodup.1
        simp [hne]
      simp only [hpath, if_false, not_false_eq_true, decide_true, if_true, hlater,
        List.append_assoc, List.singleton_append]

end Makes

/--
An action makes its assignments in order. Each value is found with the leaves that the ones before
have left and with zero for the absent ones among the paths of the action. Afterwards the paths are
the old ones in their places and then the new ones in order, each path of the action has the leaf
that was assigned, and every other path has the leaf that it had. The account has one entry for each
assignment that was to a new path, changed what is displayed, or has a trail of dice, and no other
entries.
-/
theorem Action.run_account (action : Action) (sheet : Sheet) (g : Generator) :
    let assignments := action.state.flatten
    let applied := (action.run sheet g).1
    (∀ leaves path, (scope assignments leaves).get? path =
      (leaves.get? path).or (if path ∈ assignments.keys then some (.number 0) else none)) ∧
    ∃ made, Makes assignments sheet g made applied.sheet (action.run sheet g).2 ∧
      made.map (fun a => (a.path, a.raw)) = assignments.entries ∧
      applied.sheet.keys = sheet.keys ++ assignments.keys.filter (· ∉ sheet.keys) ∧
      (∀ path, path ∉ assignments.keys → applied.sheet.get? path = sheet.get? path) ∧
      (∀ a ∈ made, applied.sheet.get? a.path = some a.outcome.leaf ∧
        a.prior = sheet.get? a.path) ∧
      applied.audit = ", ".intercalate ((made.filter (·.reported)).map (·.entry)) := by
  intro assignments applied
  obtain ⟨made, hmade, hleaves, hentries⟩ :=
    Makes.exists_made assignments assignments.entries sheet g
  have hpaths : made.map (·.path) = assignments.keys := by
    rw [Sheet.keys, ← hleaves, Ordered.keys, List.map_map]
    rfl
  have hnodup : (made.map (·.path)).Nodup := hpaths ▸ assignments.nodup
  refine ⟨fun _ _ => get?_scope, made, hmade, hleaves, ?_, fun path hpath => ?_,
    hmade.get?_of_mem hnodup, congrArg _ hentries⟩
  · rw [← hpaths]
    exact hmade.keys_eq hnodup
  · exact hmade.get?_of_not_mem (hpaths ▸ hpath)

/-- Baking: an egg is taken, luck is rolled, and the milk is measured out again. -/
def baking : Action :=
  .setting <| State.empty.insertPath ["pancakes"] (.text "+=1") |>.insertPath ["egg"] (.text "-=1")
    |>.insertPath ["luck"] (.text "[d1] + {egg}") |>.insertPath ["milk"] (.text "{milk}")

/-- Luck counts the eggs that are left, the salt stays, and the milk is not told of. -/
theorem Action.run_account_baking :
    let sheet := Sheet.ofList [("egg", .number 3), ("salt", .text "sea"), ("milk", .number 2)]
    let applied := (baking.run sheet (.ofSeed 1)).1
    "salt" ∉ baking.state.flatten.keys ∧ applied.sheet.get? "salt" = some (.text "sea") ∧
      applied.sheet.keys = ["egg", "salt", "milk", "pancakes", "luck"] ∧
      applied.sheet.get? "luck" = some (.number 3) ∧
      applied.audit = "pancakes: 1, egg: 3 -> 2, luck: [1]-> 3" := by
  intro sheet applied
  have hsalt : "salt" ∉ baking.state.flatten.keys := by decide +kernel
  obtain ⟨-, made, -, -, hkeys, kept, -, -⟩ := run_account baking sheet (.ofSeed 1)
  refine ⟨hsalt, (kept "salt" hsalt).trans (by decide +kernel),
    hkeys.trans (by decide +kernel), ?_, ?_⟩
  · decide +kernel
  · decide +kernel

end Gamebook
