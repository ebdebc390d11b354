import Gamebook.Play.Passage
import Gamebook.Proofs.Paths
import Mathlib.Data.List.TakeWhile

/-!
# The last assignment to a path

Reading a section assigns leaves to paths one after the other. The last leaf assigned to a path is
the one that the sheet ends up with, but the sheet keeps the place where a path came first, and it
is the places that decide which of two colliding paths the state keeps. So the last assignment to a
path is lost exactly if a path that collides with it came for the first time after it did. Main
definition: `Section.assigned`, the log of the assignments. Main statement:
`Section.lookup?_last_assigned`; that the last assignment does not always win is
`Section.last_assignment_lost`.
-/

/-- An element that occurs before need not be counted again. -/
lemma List.mem_append_cons_of_mem {α : Type} {xs ys : List α} {a b : α} (h : a ∈ xs) :
    b ∈ xs ++ a :: ys ↔ b ∈ xs ++ ys := by
  rw [mem_append, mem_append, mem_cons]
  exact ⟨fun hb => hb.elim .inl fun hb => hb.elim (fun e => .inl (e ▸ h)) .inr,
    fun hb => hb.elim .inl fun hb => .inr (.inr hb)⟩

/-- Elements other than the one that is looked for come before it. -/
lemma List.takeWhile_ne_append {α : Type} [DecidableEq α] {xs ys : List α} {a : α} (h : a ∉ xs) :
    (xs ++ ys).takeWhile (· ≠ a) = xs ++ ys.takeWhile (· ≠ a) :=
  takeWhile_append_of_pos fun b hb => decide_eq_true fun e : b = a => h (e ▸ hb)

namespace Gamebook

namespace Ordered

variable {α : Type} {entries : List (String × α)} {key : String} {a : α}

/-- Entries before and after the one of a key. -/
lemma split_of_get? (h : get? key entries = some a) :
    ∃ before after, entries = before ++ (key, a) :: after ∧ key ∉ keys before := by
  induction entries with
  | nil => simp [get?] at h
  | cons entry entries ih =>
    obtain ⟨k, b⟩ := entry
    by_cases e : k = key
    · simp only [get?, e, if_true, Option.some.injEq] at h
      subst e h
      exact ⟨[], entries, rfl, by simp [keys]⟩
    · simp only [get?, e, if_false] at h
      obtain ⟨before, after, rfl, hb⟩ := ih h
      exact ⟨(k, b) :: before, after, rfl, by simpa [keys, Ne.symm e] using hb⟩

/-- Leaving entries of other keys out keeps the value of a key. -/
lemma get?_filter {p : String → Bool} (h : p key = true) :
    get? key (entries.filter (p ·.1)) = get? key entries := by
  induction entries with
  | nil => rfl
  | cons entry entries ih =>
    obtain ⟨k, b⟩ := entry
    by_cases e : k = key
    · simp [get?, e, h]
    · by_cases hk : p k = true <;> simp [get?, e, hk, ih]

end Ordered

namespace Sheet

variable {sheet : Sheet} {leaves : List (String × Scalar)} {path : String}

/-- Leaves are inserted one list after the other. -/
lemma insertAll_append {more} :
    sheet.insertAll (leaves ++ more) = (sheet.insertAll leaves).insertAll more :=
  List.foldl_append

/-- Insertions at other paths keep a leaf. -/
lemma get?_insertAll (h : path ∉ Ordered.keys leaves) :
    (sheet.insertAll leaves).get? path = sheet.get? path := by
  induction leaves generalizing sheet with
  | nil => rfl
  | cons leaf leaves ih =>
    simp only [Ordered.keys, List.map_cons, List.mem_cons, not_or] at h
    rw [insertAll, List.foldl_cons]
    exact (ih h.2).trans (by rw [get?_insert, if_neg h.1])

/-- The leaf inserted last at a path is there at the end. -/
lemma get?_insertAll_last {before value after} (h : path ∉ Ordered.keys after) :
    (sheet.insertAll (before ++ (path, value) :: after)).get? path = some value := by
  rw [insertAll_append, insertAll, List.foldl_cons]
  exact (get?_insertAll h).trans (by rw [get?_insert, if_pos rfl])

/-- Which paths a sheet has after insertions. -/
lemma mem_keys_insertAll {other} :
    other ∈ (sheet.insertAll leaves).keys ↔ other ∈ sheet.keys ++ Ordered.keys leaves := by
  induction leaves generalizing sheet with
  | nil => simp [insertAll, Ordered.keys]
  | cons leaf leaves ih =>
    rw [insertAll, List.foldl_cons]
    refine ih.trans ?_
    rw [keys_insert]
    by_cases h : leaf.1 ∈ sheet.keys
    · rw [if_pos h]
      exact (List.mem_append_cons_of_mem h).symm
    · rw [if_neg h]
      simp [Ordered.keys]

/-- Which paths come before a path in a sheet after insertions: a path stays where it came first. -/
lemma mem_earlier_insertAll {other} :
    other ∈ (sheet.insertAll leaves).keys.takeWhile (· ≠ path) ↔
      other ∈ (sheet.keys ++ Ordered.keys leaves).takeWhile (· ≠ path) := by
  induction leaves generalizing sheet with
  | nil => simp [insertAll, Ordered.keys]
  | cons leaf leaves ih =>
    rw [insertAll, List.foldl_cons]
    refine ih.trans ?_
    rw [keys_insert]
    by_cases h : leaf.1 ∈ sheet.keys
    · rw [if_pos h]
      by_cases hp : path ∈ sheet.keys
      -- what is inserted behind the path does not count, and before it comes all else
      · have stop : ∀ more, (sheet.keys ++ more).takeWhile (· ≠ path) =
            sheet.keys.takeWhile (· ≠ path) := by
          intro more
          rw [List.takeWhile_append, if_neg]
          intro e
          have all := List.takeWhile_eq_self_iff.1 (List.takeWhile_sublist _ |>.eq_of_length e)
          exact of_decide_eq_true (all path hp) rfl
        rw [stop, stop]
      · have hl : leaf.1 ≠ path := fun e => hp (e ▸ h)
        rw [List.takeWhile_ne_append hp, List.takeWhile_ne_append hp,
          show Ordered.keys (leaf :: leaves) = leaf.1 :: Ordered.keys leaves from rfl,
          List.takeWhile_cons, if_pos (decide_eq_true hl)]
        exact (List.mem_append_cons_of_mem h).symm
    · rw [if_neg h]
      simp [Ordered.keys]

end Sheet

/-- The assignments of an action, with the leaves that are assigned. -/
def assignedLeaves (assignments : Sheet) :
    List (String × Scalar) → Sheet → Generator → List (String × Scalar)
  | [], _, _ => []
  | (path, raw) :: rest, sheet, g =>
    let (assigned, g) := assignedValue path raw (scope assignments sheet) g
    (path, assigned.leaf) :: assignedLeaves assignments rest (sheet.insert path assigned.leaf) g

namespace Part

mutual

/-- The assignments that are made while a part is read, in order. -/
def assigned (sheet : Sheet) (g : Generator) : Part → List (String × Scalar)
  | action a => assignedLeaves a.state.flatten a.state.flatten.entries sheet g
  | condition c whenTrue whenFalse =>
    let (decision, g) := decideCondition c.expression sheet g
    if decision.holds then assignedByAll sheet g whenTrue else assignedByAll sheet g whenFalse
  | _ => []

/-- The assignments that are made while parts are read, in order. -/
def assignedByAll (sheet : Sheet) (g : Generator) : List Part → List (String × Scalar)
  | [] => []
  | part :: parts =>
    let first := part.read sheet g
    part.assigned sheet g ++ assignedByAll first.sheet first.generator parts

end

end Part

/-- The assignments that are made while a section is read, in order. -/
def Section.assigned (s : Section) (state settings : State) (g : Generator) :
    List (String × Scalar) :=
  Part.assignedByAll (settings.flatten.overlay state.flatten) g s.parts

/-- The sheet after an action has what the action assigned. -/
lemma assignAll_sheet {assignments rest sheet g} :
    (assignAll assignments rest sheet g).1.sheet =
      sheet.insertAll (assignedLeaves assignments rest sheet g) := by
  induction rest generalizing sheet g with
  | nil => rfl
  | cons assignment rest ih => exact ih

namespace Part

mutual

/-- The sheet after a part has what was assigned. -/
lemma read_sheet {sheet g} (part : Part) :
    (part.read sheet g).sheet = sheet.insertAll (part.assigned sheet g) := by
  cases part with
  | action a => exact assignAll_sheet
  | condition c whenTrue whenFalse =>
    cases h : (decideCondition c.expression sheet g).1.holds with
    | true =>
      simp only [read, assigned, h, if_true]
      exact readAll_sheet whenTrue
    | false =>
      simp only [read, assigned, h, Bool.false_eq_true, if_false]
      exact readAll_sheet whenFalse
  | _ => rfl

/-- The sheet after parts has what was assigned. -/
lemma readAll_sheet {sheet g} (parts : List Part) :
    (readAll sheet g parts).sheet = sheet.insertAll (assignedByAll sheet g parts) := by
  cases parts with
  | nil => rfl
  | cons part parts =>
    rw [readAll, assignedByAll, Sheet.insertAll_append, ← read_sheet part]
    exact readAll_sheet parts

end

end Part

namespace Sheet

/-- Leaving other paths out keeps the order of the paths before a path. -/
lemma takeWhile_filter {paths : List String} {p : String → Bool} {path} (h : p path = true) :
    (paths.filter p).takeWhile (· ≠ path) = (paths.takeWhile (· ≠ path)).filter p := by
  induction paths with
  | nil => rfl
  | cons q paths ih =>
    by_cases e : q = path
    · simp [e, h]
    · by_cases hq : p q = true <;> simp [e, hq] <;> simpa using ih

/-- The paths behind a path of a sheet are the paths that do not come before it. -/
lemma mem_keys_behind {sheet : Sheet} {before path value after other}
    (h : sheet.entries = before ++ (path, value) :: after) :
    other ∈ Ordered.keys after ↔
      other ∈ sheet.keys ∧ other ≠ path ∧ other ∉ sheet.keys.takeWhile (· ≠ path) := by
  have hk : sheet.keys = Ordered.keys before ++ path :: Ordered.keys after := by
    rw [keys, h, Ordered.keys, List.map_append, List.map_cons]
    rfl
  have hn := sheet.nodup
  rw [show Ordered.keys sheet.entries = _ from hk, List.nodup_append, List.nodup_cons] at hn
  obtain ⟨-, ⟨ha, -⟩, disjoint⟩ := hn
  have hb : path ∉ Ordered.keys before := fun hb => disjoint _ hb _ List.mem_cons_self rfl
  have earlier : sheet.keys.takeWhile (· ≠ path) = Ordered.keys before := by
    rw [hk, List.takeWhile_ne_append hb]
    simp
  rw [earlier, hk, List.mem_append, List.mem_cons]
  constructor
  · intro hq
    exact ⟨.inr (.inr hq), fun e => ha (e ▸ hq),
      fun hb => disjoint _ hb _ (List.mem_cons_of_mem _ hq) rfl⟩
  · rintro ⟨hq | hq | hq, hne, hnb⟩
    · exact (hnb hq).elim
    · exact (hne hq).elim
    · exact hq

variable {sheet settings : Sheet} {path : String}

/-- Whether a path is not one of the settings. -/
lemma not_contains_iff : (!settings.contains path) = true ↔ path ∉ settings.keys := by
  rw [contains, get?, Bool.not_eq_true', ← Bool.not_eq_true, Ordered.get?_isSome_iff]
  rfl

/-- Leaving the settings out keeps the leaves of other paths. -/
lemma get?_without (h : path ∉ settings.keys) :
    (sheet.without settings).get? path = sheet.get? path :=
  Ordered.get?_filter (p := (!settings.contains ·)) (not_contains_iff.2 h)

/-- The paths that are left without the settings. -/
lemma keys_without : (sheet.without settings).keys = sheet.keys.filter (!settings.contains ·) := by
  rw [keys, without, Ordered.keys, keys, Ordered.keys, List.filter_map]
  rfl

end Sheet

/--
The last leaf assigned to a path that is no path of the settings: the state has it afterwards if and
only if every path that collides with it, among the paths of the state before and the paths
assigned, those of the settings left aside, comes for the first time before the path itself does. If
not, the state has no leaf at the path.
-/
theorem Section.lookup?_last_assigned {s : Section} {state settings : State} {g : Generator}
    {path : String} {value : Scalar} {before after : List (String × Scalar)}
    (hlog : s.assigned state settings g = before ++ (path, value) :: after)
    (hlast : path ∉ Ordered.keys after) (hpath : path ∉ settings.flatten.keys) :
    let arrivals := state.flatten.keys ++ Ordered.keys (s.assigned state settings g)
    let found := (s.resolve state settings g).1.state.lookup? path
    (found = some value ↔
      ∀ q ∈ arrivals, Collides q path → q ∉ settings.flatten.keys →
        q ∈ arrivals.takeWhile (· ≠ path)) ∧
      (found ≠ some value → found = none) := by
  intro arrivals found
  -- the sheet at the end, and what is kept of it
  have hread : (Part.readAll (settings.flatten.overlay state.flatten) g s.parts).sheet =
      settings.flatten.insertAll (state.flatten.entries ++ s.assigned state settings g) := by
    rw [Part.readAll_sheet, Sheet.insertAll_append]
    rfl
  generalize hsheet : (Part.readAll (settings.flatten.overlay state.flatten) g s.parts).sheet =
    sheet at hread
  have hfound : found = (sheet.without settings.flatten).rebuild.lookup? path := by
    rw [← hsheet]
    rfl
  have hget : (sheet.without settings.flatten).get? path = some value := by
    rw [Sheet.get?_without hpath, hread, hlog, ← List.append_assoc]
    exact Sheet.get?_insertAll_last hlast
  obtain ⟨front, back, hsplit, -⟩ := Ordered.split_of_get? hget
  -- the paths behind the path are those that come for the first time after it
  have behind : ∀ q, q ∈ Ordered.keys back ↔
      q ∈ arrivals ∧ q ∉ settings.flatten.keys ∧ q ≠ path ∧ q ∉ arrivals.takeWhile (· ≠ path) := by
    intro q
    have hmem : q ∈ sheet.keys ↔ q ∈ settings.flatten.keys ∨ q ∈ arrivals := by
      rw [hread, Sheet.mem_keys_insertAll, List.mem_append, Ordered.keys, List.map_append]
      rfl
    have hearlier : q ∈ sheet.keys.takeWhile (· ≠ path) ↔
        q ∈ settings.flatten.keys ∨ q ∈ arrivals.takeWhile (· ≠ path) := by
      rw [hread, Sheet.mem_earlier_insertAll, List.takeWhile_ne_append hpath, List.mem_append,
        Ordered.keys, List.map_append]
      rfl
    rw [Sheet.mem_keys_behind hsplit, Sheet.keys_without,
      Sheet.takeWhile_filter (Sheet.not_contains_iff.2 hpath), List.mem_filter, List.mem_filter,
      hmem, hearlier, Sheet.not_contains_iff]
    tauto
  rw [hfound, Sheet.lookup?_rebuild hsplit]
  split
  · next h =>
    obtain ⟨q, hq, hc⟩ := h
    rw [behind] at hq
    exact ⟨⟨by rintro ⟨⟩, fun all => (hq.2.2.2 (all q hq.1 hc hq.2.1)).elim⟩, fun _ => rfl⟩
  · next h =>
    refine ⟨⟨fun _ q hq hc hs => ?_, fun _ => rfl⟩, fun hne => (hne rfl).elim⟩
    by_contra hlate
    exact h ⟨q, (behind q).2 ⟨hq, hs, hc.1, hlate⟩, hc⟩

/-- A section that assigns to a path, then to a path below it, and then to the first path again. -/
def Section.backAndForth : Section where
  id := "s"
  heading := "S"
  parts :=
    [.action (.setting (State.empty.insertPath ["a"] (.number 1))),
      .action (.setting (State.empty.insertPath ["a", "b"] (.number 2))),
      .action (.setting (State.empty.insertPath ["a"] (.number 3)))]

/-- The last leaf assigned to `a` is lost, since `a.b` comes for the first time after `a`. -/
theorem Section.lookup?_backAndForth :
    let s := backAndForth
    let g := Generator.ofSeed 1
    let log := [("a", .number 1), ("a.b", .number 2), ("a", .number 3)]
    s.assigned .empty .empty g = log ∧ "a" ∉ Ordered.keys ([] : List (String × Scalar)) ∧
      "a" ∉ State.empty.flatten.keys ∧
      (s.resolve .empty .empty g).1.state.lookup? "a" = none := by
  have hlog : backAndForth.assigned .empty .empty (.ofSeed 1) =
      [("a", .number 1), ("a.b", .number 2)] ++ ("a", .number 3) :: [] := by decide +kernel
  have hlast : "a" ∉ Ordered.keys ([] : List (String × Scalar)) := by decide
  have hpath : "a" ∉ State.empty.flatten.keys := by decide
  refine ⟨hlog, hlast, hpath, ?_⟩
  have h := lookup?_last_assigned hlog hlast hpath
  refine h.2 fun found => ?_
  have late := h.1.1 found "a.b"
  rw [hlog] at late
  exact absurd late (by decide +kernel)

/--
It is not so that the last leaf assigned to a path can be found at it whenever no colliding path is
assigned to later on.
-/
theorem Section.last_assignment_lost :
    ¬ ∀ (s : Section) (state settings : State) (g : Generator) (path : String) (value : Scalar)
        (before after : List (String × Scalar)),
        s.assigned state settings g = before ++ (path, value) :: after →
        (∀ q ∈ Ordered.keys after, q ≠ path ∧ ¬ Collides q path) →
        path ∉ settings.flatten.keys →
        (s.resolve state settings g).1.state.lookup? path = some value := by
  intro all
  have found := all backAndForth .empty .empty (.ofSeed 1) "a" (.number 3)
    [("a", .number 1), ("a.b", .number 2)] [] (by decide +kernel) (by simp [Ordered.keys])
    (by decide)
  exact absurd found (by decide +kernel)

end Gamebook
