import Gamebook.Json.Writer
import Gamebook.Proofs.JsonNumber

/-!
# Documents read back

What is written without spaces of a JSON value is read as the same value, up to its numbers: each
number becomes the one that its text reads as. Main definitions: `Json.reread?`, `Json.height`. Main
statement: `Json.read_compactChars`.
-/

namespace Gamebook.Json

/-- The four digits that a control character is written with have its number. -/
lemma hexValue?_control {n} (h : n < 32) :
    hexValue? ['0', '0', lowerHexDigit (n / 16), lowerHexDigit (n % 16)] = some n :=
  (by decide : ∀ n < 32,
    hexValue? ['0', '0', lowerHexDigit (n / 16), lowerHexDigit (n % 16)] = some n) n h

/-- A control character is no half of a character. -/
lemma not_isSurrogate_control {n} (h : n < 32) :
    isTrailSurrogate n = false ∧ isLeadSurrogate n = false := by
  simp only [isTrailSurrogate, isLeadSurrogate, Bool.and_eq_false_iff, decide_eq_false_iff_not]
  omega

/-- A control character is read from its four digits. -/
lemma unicodeEscape_control {c : Char} {rest} (h : c.toNat < 32) :
    unicodeEscape
      ('0' :: '0' :: lowerHexDigit (c.toNat / 16) :: lowerHexDigit (c.toNat % 16) :: rest) =
        .ok (c, rest) := by
  obtain ⟨ht, hl⟩ := not_isSurrogate_control h
  have hv := hexValue?_control h
  simp only [unicodeEscape, hexEscape, List.take, List.drop, hv, List.length_cons, List.length_nil,
    if_true, bind, Except.bind, ht, hl, Bool.false_eq_true, if_false, Char.ofNat_toNat]

/-- The letters that stand behind a backslash, and the characters that are written so. -/
def shortEscapes : List (Char × Char) :=
  [('\x22', '\x22'), ('\\', '\\'), ('b', '\x08'), ('f', '\x0c'), ('n', '\n'), ('r', '\r'),
    ('t', '\t')]

/-- A character is written as itself, with a letter behind a backslash, or with its number. -/
lemma escapeChar_forms {c : Char} :
    (escapeChar c = [c] ∧ c ≠ '\x22' ∧ c ≠ '\\' ∧ ¬c.toNat < 32) ∨
      (∃ d, escapeChar c = ['\\', d] ∧ (d, c) ∈ shortEscapes) ∨
        (c.toNat < 32 ∧ escapeChar c =
          ['\\', 'u', '0', '0', lowerHexDigit (c.toNat / 16), lowerHexDigit (c.toNat % 16)]) := by
  by_cases hq : c = '\x22'
  · exact .inr (.inl ⟨'\x22', by rw [hq]; rfl, by rw [hq]; decide⟩)
  by_cases hb : c = '\\'
  · exact .inr (.inl ⟨'\\', by rw [hb]; rfl, by rw [hb]; decide⟩)
  by_cases h₁ : c = '\x08'
  · exact .inr (.inl ⟨'b', by rw [h₁]; rfl, by rw [h₁]; decide⟩)
  by_cases h₂ : c = '\x0c'
  · exact .inr (.inl ⟨'f', by rw [h₂]; rfl, by rw [h₂]; decide⟩)
  by_cases h₃ : c = '\n'
  · exact .inr (.inl ⟨'n', by rw [h₃]; rfl, by rw [h₃]; decide⟩)
  by_cases h₄ : c = '\r'
  · exact .inr (.inl ⟨'r', by rw [h₄]; rfl, by rw [h₄]; decide⟩)
  by_cases h₅ : c = '\t'
  · exact .inr (.inl ⟨'t', by rw [h₅]; rfl, by rw [h₅]; decide⟩)
  simp only [escapeChar, if_neg hq, if_neg hb, if_neg h₁, if_neg h₂, if_neg h₃, if_neg h₄,
    if_neg h₅]
  by_cases h : c.toNat < 32
  · rw [if_pos h]
    exact .inr (.inr ⟨h, rfl⟩)
  · rw [if_neg h]
    exact .inl ⟨rfl, hq, hb, h⟩

/-- A written character is itself, or a backslash and what is read as the character. -/
lemma escapeChar_cases {c : Char} :
    (escapeChar c = [c] ∧ c ≠ '\x22' ∧ c ≠ '\\' ∧ ¬c.toNat < 32) ∨
      ∃ e, escapeChar c = '\\' :: e ∧ ∀ rest, escape (e ++ rest) = .ok (c, rest) := by
  obtain h | ⟨d, h, hd⟩ | ⟨hc, h⟩ := escapeChar_forms (c := c)
  · exact .inl h
  · refine .inr ⟨[d], h, fun rest => ?_⟩
    simp only [shortEscapes, List.mem_cons, Prod.mk.injEq, List.not_mem_nil, or_false] at hd
    rcases hd with ⟨rfl, rfl⟩ | ⟨rfl, rfl⟩ | ⟨rfl, rfl⟩ | ⟨rfl, rfl⟩ | ⟨rfl, rfl⟩ | ⟨rfl, rfl⟩ |
      ⟨rfl, rfl⟩ <;> rfl
  · exact .inr ⟨_, h, fun rest => unicodeEscape_control hc⟩

/-- A written character is not empty. -/
lemma length_escapeChar_pos {c : Char} : 0 < (escapeChar c).length := by
  obtain ⟨h, -⟩ | ⟨e, h, -⟩ := escapeChar_cases (c := c)
  · rw [h]
    exact Nat.one_pos
  · rw [h, List.length_cons]
    exact Nat.succ_pos _

/-- A written text is read up to its closing quote. -/
lemma stringChars_escaped {cs fuel rest} (h : cs.length < fuel) :
    stringChars fuel (cs.flatMap escapeChar ++ '\x22' :: rest) = .ok (cs, rest) := by
  induction cs generalizing fuel with
  | nil =>
    obtain ⟨fuel, rfl⟩ := Nat.exists_eq_succ_of_ne_zero (Nat.ne_zero_of_lt h)
    rfl
  | cons c cs ih =>
    obtain ⟨fuel, rfl⟩ := Nat.exists_eq_succ_of_ne_zero (Nat.ne_zero_of_lt h)
    have ih := @ih fuel (Nat.lt_of_succ_lt_succ h)
    rw [List.flatMap_cons, List.append_assoc]
    obtain ⟨e, hq, hb, hc⟩ | ⟨e, he, hesc⟩ := escapeChar_cases (c := c)
    · rw [e, List.singleton_append, Nat.succ_eq_add_one, stringChars, if_neg hq, if_neg hb,
        if_neg hc, ih]
      rfl
    · rw [he, List.cons_append, Nat.succ_eq_add_one, stringChars, if_neg (by decide), if_pos rfl,
        hesc]
      simp only [bind, Except.bind, ih]

/-- A written text is at least as long as the text. -/
lemma length_le_escaped {cs : List Char} : cs.length ≤ (cs.flatMap escapeChar).length := by
  induction cs with
  | nil => exact Nat.le_refl 0
  | cons c cs ih =>
    have := length_escapeChar_pos (c := c)
    rw [List.flatMap_cons, List.length_append, List.length_cons]
    omega

/-- A string is read from its quoted text, after the opening quote. -/
lemma string_quoted {s : String} {rest} :
    string (s.toList.flatMap escapeChar ++ '\x22' :: rest) = .ok (s, rest) := by
  have h := @length_le_escaped s.toList
  rw [string, stringChars_escaped (by rw [List.length_append]; omega)]
  simp only [bind, Except.bind, String.ofList_toList]

/-- The number that the text of a number reads as, if it reads as one. -/
def Number.reread? (n : Number) : Option Number :=
  match readNumber n.text with
  | .ok (m, []) => some m
  | _ => none

mutual

/-- The value that the text of a value reads as, if its numbers read back and nothing is torn. -/
def reread? : Json → Option Json
  | .num n => n.reread?.map .num
  | .arr items => (rereadItems? items).map .arr
  | .obj fields => (rereadFields? fields).map .obj
  | .torn _ => none
  | j => some j

/-- The items that the texts of the items read as. -/
def rereadItems? : List Json → Option (List Json)
  | [] => some []
  | item :: items => do return (← item.reread?) :: (← rereadItems? items)

/-- The fields that the texts of the fields read as. -/
def rereadFields? : List (String × Json) → Option (List (String × Json))
  | [] => some []
  | (name, value) :: fields => do return (name, ← value.reread?) :: (← rereadFields? fields)

end

mutual

/-- How many brackets lie around each other in a value. -/
def height : Json → Nat
  | .arr items => itemsHeight items + 1
  | .obj fields => fieldsHeight fields + 1
  | _ => 0

/-- How many brackets lie around each other in some items. -/
def itemsHeight : List Json → Nat
  | [] => 0
  | item :: items => max item.height (itemsHeight items)

/-- How many brackets lie around each other in the values of some fields. -/
def fieldsHeight : List (String × Json) → Nat
  | [] => 0
  | (_, value) :: fields => max value.height (fieldsHeight fields)

end

/-- The text after an item: the end of the list, or a comma and more items. -/
def itemsTail : List Json → List Char
  | [] => [']']
  | item :: items => ',' :: compactItems (item :: items)

/-- The text after a field: the end of the object, or a comma and more fields. -/
def fieldsTail : List (String × Json) → List Char
  | [] => ['}']
  | field :: fields => ',' :: compactFields (field :: fields)

/-- The text of items is an item and the text after it. -/
lemma compactItems_cons {item items} :
    compactItems (item :: items) = item.compactChars ++ itemsTail items := by
  cases items <;> rfl

/-- The text of fields is a field and the text after it. -/
lemma compactFields_cons {name value fields} :
    compactFields ((name, value) :: fields) =
      '\x22' :: (name.toList.flatMap escapeChar ++
        '\x22' :: ':' :: (value.compactChars ++ fieldsTail fields)) := by
  cases fields <;> simp [compactFields, quoted, fieldsTail]

/-- A number stops at what comes after an item. -/
lemma stops_itemsTail {items rest} : Stops (itemsTail items ++ rest) := by
  cases items <;> exact .cons (by simp)

/-- A number stops at what comes after a field. -/
lemma stops_fieldsTail {fields rest} : Stops (fieldsTail fields ++ rest) := by
  cases fields <;> exact .cons (by simp)

/-- A text without a blank in front is not changed by skipping blanks. -/
lemma skipBlanks_cons {c cs} (h : c ≠ ' ' ∧ c ≠ '\n' ∧ c ≠ '\t' ∧ c ≠ '\r') :
    skipBlanks (c :: cs) = c :: cs := by
  simp [skipBlanks, h]

/-- The text of a number that reads back starts with a sign or a digit. -/
lemma readNumber_head {cs m r} (h : readNumber cs = .ok (m, r)) :
    ∃ c cs', cs = c :: cs' ∧ (c = '-' ∨ c ≠ '-' ∧ c.isDigit = true) := by
  cases cs with
  | nil => cases h
  | cons c cs =>
    refine ⟨c, cs, rfl, ?_⟩
    by_cases hc : c = '-'
    · exact .inl hc
    · rw [readNumber_of_ne hc] at h
      unfold number at h
      simp only at h
      by_cases hd : c.isDigit = true
      · exact .inr ⟨hc, hd⟩
      · have h0 : c ≠ '0' := by
          intro e
          subst e
          exact hd rfl
        rw [if_neg h0, if_neg hd] at h
        cases h

/-- What is written of a value that reads back starts with no blank and with no closing bracket. -/
lemma compactChars_head {j j'} (h : reread? j = some j') :
    ∃ c cs, j.compactChars = c :: cs ∧ (c ≠ ' ' ∧ c ≠ '\n' ∧ c ≠ '\t' ∧ c ≠ '\r') ∧ c ≠ ']' := by
  cases j with
  | null => exact ⟨_, _, rfl, by decide, by decide⟩
  | bool b => cases b <;> exact ⟨_, _, rfl, by decide, by decide⟩
  | num n =>
    rw [reread?, Number.reread?] at h
    split at h
    · next m hm =>
      obtain ⟨c, cs, hn, hc⟩ := readNumber_head hm
      refine ⟨c, cs, hn, ?_⟩
      obtain rfl | ⟨-, hc⟩ := hc
      · decide
      · refine ⟨⟨?_, ?_, ?_, ?_⟩, ?_⟩ <;> rintro rfl <;> exact absurd hc (by decide)
    · cases h
  | str s => exact ⟨_, _, rfl, by decide, by decide⟩
  | arr items => exact ⟨_, _, rfl, by decide, by decide⟩
  | obj fields => exact ⟨_, _, rfl, by decide, by decide⟩
  | torn fault => cases h

/-- A number is read from its text. -/
lemma value_number {n m fuel depth rest} (hr : Stops rest) (h : Number.reread? n = some m) :
    value (fuel + 1) depth (n.text ++ rest) = (.num m, some rest) := by
  rw [Number.reread?] at h
  split at h
  · next m' hm =>
    cases h
    have hread := readNumber_append hr hm
    obtain ⟨c, cs, hn, hc⟩ := readNumber_head hm
    rw [hn, List.cons_append, List.nil_append] at hread
    rw [hn, List.cons_append]
    obtain rfl | ⟨hne, hd⟩ := hc
    · rw [value, skipBlanks_cons (by decide)]
      simp only [readNumber] at hread
      simp [hread, ofPiece]
    · have hc : ∀ d : Char, d.isDigit = false → c ≠ d := by
        rintro d hd' rfl
        rw [hd] at hd'
        cases hd'
      rw [value, skipBlanks_cons ⟨hc _ rfl, hc _ rfl, hc _ rfl, hc _ rfl⟩]
      rw [readNumber_of_ne hne] at hread
      simp [hread, ofPiece, hd, hc 'n' rfl, hc 't' rfl, hc 'f' rfl, hne]
  · cases h

/-- The end of a list is read. -/
lemma items_end {fuel depth rest} :
    Json.items (fuel + 1) depth false (itemsTail [] ++ rest) = ([], some rest) := by
  simp [itemsTail, Json.items, skipBlanks_cons]

/-- The end of an object is read. -/
lemma fields_end {fuel depth rest} :
    Json.fields (fuel + 1) depth false (fieldsTail [] ++ rest) = ([], some rest) := by
  simp [fieldsTail, Json.fields, skipBlanks_cons]

/-- Items that come first are read item by item. -/
lemma items_first {fuel depth item item' items rest} (h : reread? item = some item') :
    Json.items (fuel + 1) depth true (compactItems (item :: items) ++ rest) =
      Json.item fuel depth (compactItems (item :: items) ++ rest) := by
  obtain ⟨c, cs, hc, hb, hne⟩ := compactChars_head h
  rw [compactItems_cons, List.append_assoc, hc, List.cons_append, Json.items, skipBlanks_cons hb]
  simp [hne]

/-- Items that come after another one are read item by item. -/
lemma items_next {fuel depth item item' items rest} (h : reread? item = some item') :
    Json.items (fuel + 1) depth false (itemsTail (item :: items) ++ rest) =
      Json.item fuel depth (compactItems (item :: items) ++ rest) := by
  obtain ⟨c, cs, hc, hb, hne⟩ := compactChars_head h
  rw [itemsTail, List.cons_append, Json.items, skipBlanks_cons (by decide), compactItems_cons,
    List.append_assoc, hc, List.cons_append]
  simp [skipBlanks_cons hb, hne]

/-- Fields that come first are read field by field, after the quote. -/
lemma fields_first {fuel depth name value fields rest} :
    Json.fields (fuel + 1) depth true (compactFields ((name, value) :: fields) ++ rest) =
      Json.field fuel depth (name.toList.flatMap escapeChar ++
        '\x22' :: ':' :: (value.compactChars ++ (fieldsTail fields ++ rest))) := by
  rw [compactFields_cons, List.cons_append, Json.fields, skipBlanks_cons (by decide)]
  simp

/-- Fields that come after another one are read field by field, after the quote. -/
lemma fields_next {fuel depth name value fields rest} :
    Json.fields (fuel + 1) depth false (fieldsTail ((name, value) :: fields) ++ rest) =
      Json.field fuel depth (name.toList.flatMap escapeChar ++
        '\x22' :: ':' :: (value.compactChars ++ (fieldsTail fields ++ rest))) := by
  rw [fieldsTail, List.cons_append, Json.fields, skipBlanks_cons (by decide), compactFields_cons,
    List.cons_append]
  simp [skipBlanks_cons]

mutual

/-- A value that reads back is read from its text. -/
lemma value_compactChars {fuel depth rest} (hr : Stops rest) :
    ∀ {j j' : Json}, j.reread? = some j' → j.height ≤ depth →
      3 * j.compactChars.length ≤ fuel + 1 →
        value (fuel + 1) depth (j.compactChars ++ rest) = (j', some rest)
  | .null, j', h, _, _ => by
    cases h
    rw [value]
    rfl
  | .bool b, j', h, _, _ => by
    cases h
    cases b <;>
      simp [compactChars, value, skipBlanks_cons, ofIdent, ident, ofPiece, Except.map]
  | .num n, j', h, _, _ => by
    obtain ⟨m, hm, rfl⟩ := Option.map_eq_some_iff.1 h
    exact value_number hr hm
  | .str s, j', h, _, _ => by
    cases h
    rw [compactChars, quoted, List.cons_append, List.cons_append, List.append_assoc, value,
      skipBlanks_cons (by decide)]
    simp [string_quoted, ofPiece]
  | .arr items, j', h, hd, hf => by
    obtain ⟨items', hi, rfl⟩ := Option.map_eq_some_iff.1 h
    rw [height] at hd
    rw [compactChars, List.length_cons] at hf
    -- a bracket takes one level of the depth, and its character pays for the two calls to the items
    obtain ⟨depth, rfl⟩ : ∃ n, depth = n + 1 := Nat.exists_eq_add_of_le' (by omega)
    obtain ⟨fuel, rfl⟩ : ∃ n, fuel = n + 2 := Nat.exists_eq_add_of_le' (by omega)
    have hread : Json.items (fuel + 2) depth true (compactItems items ++ rest) =
        (items', some rest) := by
      cases items with
      | nil =>
        cases hi
        simp [compactItems, Json.items, skipBlanks_cons]
      | cons item items =>
        obtain ⟨item', hitem, -⟩ := Option.bind_eq_some_iff.1 hi
        rw [items_first hitem]
        exact item_compactItems hi (Nat.le_of_succ_le_succ hd) (by omega)
    rw [compactChars, List.cons_append, value, skipBlanks_cons (by decide)]
    simp [hread]
  | .obj fields, j', h, hd, hf => by
    obtain ⟨fields', hi, rfl⟩ := Option.map_eq_some_iff.1 h
    rw [height] at hd
    rw [compactChars, List.length_cons] at hf
    obtain ⟨depth, rfl⟩ : ∃ n, depth = n + 1 := Nat.exists_eq_add_of_le' (by omega)
    obtain ⟨fuel, rfl⟩ : ∃ n, fuel = n + 2 := Nat.exists_eq_add_of_le' (by omega)
    have hread : Json.fields (fuel + 2) depth true (compactFields fields ++ rest) =
        (fields', some rest) := by
      cases fields with
      | nil =>
        cases hi
        simp [compactFields, Json.fields, skipBlanks_cons]
      | cons field fields =>
        obtain ⟨name, value⟩ := field
        rw [fields_first]
        exact field_compactFields hi (Nat.le_of_succ_le_succ hd) (by omega)
    rw [compactChars, List.cons_append, value, skipBlanks_cons (by decide)]
    simp [hread]
  | .torn _, _, h, _, _ => by cases h

/-- Items that read back are read from their text. -/
lemma item_compactItems {fuel depth rest} :
    ∀ {item : Json} {items items' : List Json}, rereadItems? (item :: items) = some items' →
      itemsHeight (item :: items) ≤ depth →
        3 * (compactItems (item :: items)).length ≤ fuel →
          Json.item (fuel + 1) depth (compactItems (item :: items) ++ rest) = (items', some rest)
  | item, items, items', h, hd, hf => by
    obtain ⟨item', hi, h⟩ := Option.bind_eq_some_iff.1 h
    obtain ⟨items', his, h⟩ := Option.bind_eq_some_iff.1 h
    cases h
    rw [itemsHeight] at hd
    rw [compactItems_cons, List.length_append] at hf
    obtain ⟨c, cs, hc, -⟩ := compactChars_head hi
    have hl : 0 < item.compactChars.length := by
      rw [hc]
      exact Nat.succ_pos _
    obtain ⟨fuel, rfl⟩ : ∃ n, fuel = n + 2 := Nat.exists_eq_add_of_le' (by omega)
    rw [compactItems_cons, List.append_assoc, Json.item,
      value_compactChars stops_itemsTail hi (by omega) (by omega)]
    cases items with
    | nil =>
      cases his
      simp only [items_end]
    | cons next items =>
      obtain ⟨next', hnext, -⟩ := Option.bind_eq_some_iff.1 his
      rw [itemsTail, List.length_cons] at hf
      have ih := @item_compactItems fuel depth rest next items items' his (by omega) (by omega)
      simp only [items_next hnext, ih]

/-- Fields that read back are read from their text. -/
lemma field_compactFields {fuel depth rest} :
    ∀ {name : String} {value : Json} {fields fields' : List (String × Json)},
      rereadFields? ((name, value) :: fields) = some fields' →
        fieldsHeight ((name, value) :: fields) ≤ depth →
          3 * (compactFields ((name, value) :: fields)).length ≤ fuel →
            Json.field (fuel + 1) depth (name.toList.flatMap escapeChar ++
              '\x22' :: ':' :: (value.compactChars ++ (fieldsTail fields ++ rest))) =
                (fields', some rest)
  | name, value, fields, fields', h, hd, hf => by
    obtain ⟨value', hv, h⟩ := Option.bind_eq_some_iff.1 h
    obtain ⟨fields', hfs, h⟩ := Option.bind_eq_some_iff.1 h
    cases h
    rw [fieldsHeight] at hd
    simp only [compactFields_cons, List.length_append, List.length_cons] at hf
    obtain ⟨fuel, rfl⟩ : ∃ n, fuel = n + 2 := Nat.exists_eq_add_of_le' (by omega)
    have hvalue := @value_compactChars (fuel + 1) depth (fieldsTail fields ++ rest)
      stops_fieldsTail value value' hv (by omega) (by omega)
    simp only [Json.field, string_quoted, skipBlanks_cons (c := ':') (by decide), if_true, hvalue]
    cases fields with
    | nil =>
      cases hfs
      simp only [fields_end]
    | cons next fields =>
      obtain ⟨name', value'⟩ := next
      rw [fieldsTail, List.length_cons] at hf
      have ih := @field_compactFields fuel depth rest name' value' fields fields' hfs (by omega)
        (by omega)
      simp only [fields_next, ih]

end

/-- A value that reads back is the one value of its text. -/
lemma read_compactChars {j j' : Json} (h : j.reread? = some j') (hd : j.height ≤ maxDepth) :
    read j.compactChars = (j', none) := by
  have hv := @value_compactChars (3 * j.compactChars.length + 2) maxDepth [] .nil j j' h hd
    (by omega)
  rw [List.append_nil] at hv
  rw [read, hv]
  rfl

end Gamebook.Json
