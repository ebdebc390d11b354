import Gamebook.State.Ordered
import Gamebook.State.Scalar

/-!
# Sheets

A sheet lists the leaves of a state by their dotted paths, in the order in which the paths came.
Conditions and actions are evaluated on sheets. Main definitions: `Sheet`, `Sheet.insert`,
`Sheet.overlay`, `Sheet.without`.
-/

namespace Gamebook

/-- Leaves by their dotted paths, in order and without repetition. -/
structure Sheet where
  /-- The paths with their leaves. -/
  entries : List (String × Scalar)
  /-- No path occurs twice. -/
  nodup : (Ordered.keys entries).Nodup

namespace Sheet

/-- The sheet without any leaf. -/
def empty : Sheet where
  entries := []
  nodup := by simp [Ordered.keys]

/-- The paths in order. -/
def keys (sheet : Sheet) : List String :=
  Ordered.keys sheet.entries

/-- The leaf at a path. -/
def get? (sheet : Sheet) (path : String) : Option Scalar :=
  Ordered.get? path sheet.entries

/-- Whether there is a leaf at a path. -/
def contains (sheet : Sheet) (path : String) : Bool :=
  (sheet.get? path).isSome

/-- The sheet with a leaf at a path: in the path's place, or at the end if the path is new. -/
def insert (sheet : Sheet) (path : String) (leaf : Scalar) : Sheet where
  entries := Ordered.put path leaf sheet.entries
  nodup := Ordered.nodup_put path leaf sheet.nodup

/-- The sheet without the leaf at a path. -/
def erase (sheet : Sheet) (path : String) : Sheet where
  entries := Ordered.erase path sheet.entries
  nodup := Ordered.nodup_erase path sheet.nodup

/-- The leaves inserted one after the other. -/
def insertAll (sheet : Sheet) (leaves : List (String × Scalar)) : Sheet :=
  leaves.foldl (fun sheet (path, leaf) => sheet.insert path leaf) sheet

/-- The leaves as a sheet: a repeated path keeps its first place and its last leaf. -/
def ofList (leaves : List (String × Scalar)) : Sheet :=
  empty.insertAll leaves

/-- The sheet with every leaf of another one inserted. -/
def overlay (sheet upper : Sheet) : Sheet :=
  sheet.insertAll upper.entries

/-- The leaves whose paths are not in another sheet. -/
def without (sheet other : Sheet) : Sheet where
  entries := sheet.entries.filter (!other.contains ·.1)
  nodup := Ordered.nodup_filter _ sheet.nodup

/-- What an insertion does to the leaves. -/
theorem get?_insert (sheet : Sheet) (path other : String) (leaf : Scalar) :
    (sheet.insert path leaf).get? other = if other = path then some leaf else sheet.get? other :=
  Ordered.get?_put path other leaf sheet.entries

/-- What an insertion does to the paths. -/
theorem keys_insert (sheet : Sheet) (path : String) (leaf : Scalar) :
    (sheet.insert path leaf).keys =
      if path ∈ sheet.keys then sheet.keys else sheet.keys ++ [path] :=
  Ordered.keys_put path leaf sheet.entries

/-- The leaves after insertions are leaves from before and the ones that are inserted. -/
theorem mem_insertAll {sheet : Sheet} {leaves : List (String × Scalar)} {e : String × Scalar}
    (h : e ∈ (sheet.insertAll leaves).entries) : e ∈ sheet.entries ∨ e ∈ leaves := by
  induction leaves generalizing sheet with
  | nil => exact .inl h
  | cons leaf leaves ih =>
    obtain h | h := ih h
    · obtain rfl | h := Ordered.mem_put h
      · exact .inr List.mem_cons_self
      · exact .inl h
    · exact .inr (List.mem_cons_of_mem _ h)

/-- The leaves of a sheet made of leaves are among those. -/
theorem mem_ofList {leaves : List (String × Scalar)} {e : String × Scalar}
    (h : e ∈ (ofList leaves).entries) : e ∈ leaves :=
  (mem_insertAll h).resolve_left List.not_mem_nil

/-- Sheets with the same leaves in the same order are equal. -/
@[ext]
theorem ext {a b : Sheet} (h : a.entries = b.entries) : a = b := by
  obtain ⟨a, _⟩ := a
  obtain ⟨b, _⟩ := b
  simp only at h
  subst h
  rfl

end Sheet

end Gamebook
