/-!
# Ordered entries

Entries with distinct keys that keep the order in which the keys came: `get?` finds the value of a
key, `put` replaces a value in place or appends a new entry, `erase` removes an entry and keeps the
order of the others. The lemmas say what each operation does to the keys and to what `get?` finds.
-/

namespace Gamebook.Ordered

variable {α : Type}

/-- The keys in order. -/
def keys (entries : List (String × α)) : List String :=
  entries.map (·.1)

/-- The value of a key. -/
def get? (key : String) : List (String × α) → Option α
  | [] => none
  | (k, a) :: entries => if k = key then some a else get? key entries

/-- The entries with a value for a key: in the key's place, or at the end if the key is new. -/
def put (key : String) (value : α) : List (String × α) → List (String × α)
  | [] => [(key, value)]
  | (k, a) :: entries => if k = key then (k, value) :: entries else (k, a) :: put key value entries

/-- The entries without a key. -/
def erase (key : String) (entries : List (String × α)) : List (String × α) :=
  entries.filter (·.1 ≠ key)

/-- A key has a value exactly when it is one of the keys. -/
theorem get?_isSome_iff {key : String} {entries : List (String × α)} :
    (get? key entries).isSome ↔ key ∈ keys entries := by
  induction entries with
  | nil => simp [get?, keys]
  | cons e entries ih =>
    obtain ⟨k, a⟩ := e
    by_cases h : k = key
    · simp [get?, keys, h]
    · simp only [get?, h, if_false, ih, keys, List.map_cons, List.mem_cons]
      simp [Ne.symm h]

/-- A key without an entry has no value. -/
theorem get?_eq_none_iff {key : String} {entries : List (String × α)} :
    get? key entries = none ↔ key ∉ keys entries := by
  rw [← get?_isSome_iff]
  simp

/-- Putting a value keeps the keys, and appends the key if it is new. -/
theorem keys_put (key : String) (value : α) (entries : List (String × α)) :
    keys (put key value entries) =
      if key ∈ keys entries then keys entries else keys entries ++ [key] := by
  induction entries with
  | nil => simp [put, keys]
  | cons e entries ih =>
    obtain ⟨k, a⟩ := e
    by_cases h : k = key
    · simp [put, keys, h]
    · simp only [put, h, if_false, keys, List.map_cons, List.mem_cons, Ne.symm h, false_or] at ih ⊢
      rw [ih]
      split <;> simp_all

/-- After a value is put, its key has that value and every other key has the value it had. -/
theorem get?_put (key other : String) (value : α) (entries : List (String × α)) :
    get? other (put key value entries) = if other = key then some value else get? other entries := by
  induction entries with
  | nil =>
    by_cases h : other = key
    · simp [put, get?, h]
    · simp [put, get?, h, Ne.symm h]
  | cons e entries ih =>
    obtain ⟨k, a⟩ := e
    by_cases h : k = key
    · by_cases ho : other = key
      · simp [put, get?, h, ho]
      · simp [put, get?, h, ho, Ne.symm ho]
    · by_cases ho : k = other
      · have : ¬ other = key := fun e => h (ho.trans e)
        simp [put, get?, ho, this]
      · simp [put, get?, h, ho, ih]

/-- The entries after a value is put are the one that is put and entries from before. -/
theorem mem_put {key : String} {value : α} {entries : List (String × α)} {e : String × α}
    (h : e ∈ put key value entries) : e = (key, value) ∨ e ∈ entries := by
  induction entries with
  | nil => exact .inl (List.mem_singleton.1 h)
  | cons f entries ih =>
    rw [put] at h
    split at h
    · next hk =>
      rw [hk] at h
      exact (List.mem_cons.1 h).imp id (List.mem_cons_of_mem _)
    · obtain rfl | h := List.mem_cons.1 h
      · exact .inr List.mem_cons_self
      · exact (ih h).imp id (List.mem_cons_of_mem _)

/-- Putting a value keeps the keys distinct. -/
theorem nodup_put (key : String) (value : α) {entries : List (String × α)}
    (h : (keys entries).Nodup) : (keys (put key value entries)).Nodup := by
  rw [keys_put]
  split
  · exact h
  · next hk =>
    rw [List.nodup_append]
    refine ⟨h, by simp, fun a ha b hb => ?_⟩
    rw [List.mem_singleton] at hb
    exact fun e => hk (hb ▸ e ▸ ha)

/-- The keys of some of the entries are distinct if all keys are. -/
theorem nodup_filter (p : String × α → Bool) {entries : List (String × α)}
    (h : (keys entries).Nodup) : (keys (entries.filter p)).Nodup :=
  List.Nodup.sublist (List.filter_sublist.map _) h

/-- Erasing a key keeps the keys distinct. -/
theorem nodup_erase (key : String) {entries : List (String × α)}
    (h : (keys entries).Nodup) : (keys (erase key entries)).Nodup :=
  nodup_filter _ h

end Gamebook.Ordered
