import Gamebook.Proofs.FiniteNumbers
import Gamebook.Proofs.Literals

/-!
# States written in lines

A state that is written with one key a line is read by the relaxed reader as an alike state if its
numbers are finite and its keys and texts have no separators. The document of any other number is
`null`, which is never read as an entry, and a separator ends a line in a relaxed document, so that
it may not stand in a string. Main definition: `State.isWritable`. Main statements:
`State.readRelaxed_of_isWritable`, `State.readRelaxed_of_not_isWritable`.
-/

namespace Gamebook

/-- Whether a leaf is a number or a text without separators. -/
def Scalar.isUnseparated : Scalar → Bool
  | .number _ => true
  | .text s => Text.isUnseparated s.toList

/-- Whether no key and no text of a tree has separators. -/
def Tree.isUnseparated : Tree → Bool
  | .nil => true
  | .leaf key value rest =>
    Text.isUnseparated key.toList && value.isUnseparated && rest.isUnseparated
  | .table key sub rest => Text.isUnseparated key.toList && sub.isUnseparated && rest.isUnseparated

/-- Whether the numbers of a state are finite and its keys and texts have no separators. -/
def State.isWritable (state : State) : Bool :=
  state.isFinite && state.tree.isUnseparated

/-- The JSON value of a leaf that is not finite is `null`. -/
lemma Scalar.toJson_of_not_isFinite {leaf : Scalar} (h : leaf.isFinite = false) :
    leaf.toJson = .null := by
  cases leaf with
  | text s => cases h
  | number x =>
    have h : x.isFinite = false := h
    have hsmall : Number.smallInteger? x = none := by
      refine Option.eq_none_iff_forall_ne_some.2 fun n hn => ?_
      rw [Number.isFinite_of_smallInteger? hn] at h
      cases h
    simp only [toJson, hsmall, h, Bool.false_eq_true, if_false]

namespace Json.Relaxed

variable {s : String} {level outer fuel : Nat} {rest : List Char}

section Read

/-- What is written for a number that is not finite is read as what is written. -/
lemma legibleLeaf_null {leaf : Scalar} (h : leaf.toJson = .null) : LegibleLeaf leaf := by
  intro level fuel rest _
  rw [h]
  exact value?_eq_leaf? rfl (by decide)

/-- A leaf without separators is read as what is written for it. -/
lemma legibleLeaf_of_isUnseparated {leaf : Scalar} (h : leaf.isUnseparated = true) :
    LegibleLeaf leaf := by
  cases leaf with
  | text s => exact legibleLeaf_text h
  | number x =>
    cases hx : x.isFinite with
    | false => exact legibleLeaf_null (Scalar.toJson_of_not_isFinite hx)
    | true =>
      cases e : Number.smallInteger? x with
      | some n =>
        refine legibleLeaf_int (Number.alike_of_smallInteger? e).1 ?_
        simp only [Scalar.toJson, e]
      | none => exact legibleLeaf_fraction hx e

/-- The keys and leaves of a tree without separators are read as what is written for them. -/
lemma legible_of_isUnseparated {tree : Tree} (h : tree.isUnseparated = true) : Legible tree := by
  induction tree with
  | nil => exact trivial
  | leaf key value more ih =>
    simp only [Tree.isUnseparated, Bool.and_eq_true] at h
    exact ⟨h.1.1, legibleLeaf_of_isUnseparated h.1.2, ih h.2⟩
  | table key sub more ihsub ih =>
    simp only [Tree.isUnseparated, Bool.and_eq_true] at h
    exact ⟨h.1.1, ihsub h.1.2, ih h.2⟩

end Read

section Unread

/-- A written text is not read up to its closing quote if it has a separator. -/
lemma stringParts?_separated {cs} (h : Text.isUnseparated cs = false) :
    stringParts? '\x22' fuel (cs.flatMap escapeChar ++ '\x22' :: rest) = none := by
  induction cs generalizing fuel with
  | nil => cases h
  | cons c cs ih =>
    cases fuel with
    | zero => rfl
    | succ fuel =>
      rw [List.flatMap_cons, List.append_assoc]
      by_cases hc : c = '\u2028' ∨ c = '\u2029'
      · obtain rfl | rfl := hc
        · rfl
        · rfl
      -- the separator is in the rest, whatever stands for this character
      have hcs : Text.isUnseparated cs = false := by
        rw [not_or] at hc
        simpa [Text.isUnseparated, hc] using h
      obtain ⟨e, hq, hb, -⟩ | ⟨d, e, hd⟩ | ⟨hc, e⟩ := escapeChar_forms (c := c)
      · simp [e, stringParts?, hq, hb, ih hcs]
      · have hesc := (@escapeSequence?_shortEscape d c
          (cs.flatMap escapeChar ++ '\x22' :: rest) hd).1
        simp [e, stringParts?, hesc, ih hcs]
      · obtain ⟨digits, -, hesc⟩ :=
          @escapeSequence?_control c (cs.flatMap escapeChar ++ '\x22' :: rest) hc
        simp [e, stringParts?, hesc, ih hcs]

/-- A quoted text with a separator is read neither as a name nor as a text. -/
lemma quoted_separated (h : Text.isUnseparated s.toList = false) :
    key? (quoted s ++ rest) = none ∧ leaf? (quoted s ++ rest) = none := by
  have e : quoted s ++ rest = '\x22' :: (s.toList.flatMap escapeChar ++ '\x22' :: rest) := by
    simp [quoted]
  rw [e]
  constructor
  · rw [key?, if_pos (.inl rfl), stringParts?_separated h]
  · simp only [leaf?, stringParts?_separated h, Option.map_none]
    rfl

/-- Fields are not read if the key of the first one has a separator or its value is not read. -/
lemma fields?_eq_none {key value fields}
    (h : Text.isUnseparated key.toList = true → value? fuel
      (' ' :: (value.prettyChars level ++ afterField level outer fields rest)) = none) :
    fields? (fuel + 1)
      (prettyFields level ((key, value) :: fields) ++ newLine outer ++ '\x7d' :: rest) = none := by
  have hq : ∀ cs, quoted key ++ cs = '\x22' :: (key.toList.flatMap escapeChar ++ '\x22' :: cs) := by
    simp [quoted]
  rw [prettyFields_cons, hq, fields?, skipFiller_newLine rfl (by decide), ← hq]
  split
  · next h' =>
    rw [hq] at h'
    exact absurd (List.cons.inj h').1 (by decide)
  cases hkey : Text.isUnseparated key.toList with
  | false => rw [(quoted_separated hkey).1]; rfl
  | true =>
    obtain ⟨parts, hparts, -⟩ := @key?_quoted key
      (':' :: ' ' :: (value.prettyChars level ++ afterField level outer fields rest)) hkey
    simp only [hparts, bind, Option.bind, skipFiller_cons (c := ':') rfl (by decide),
      Text.dropPrefix?, if_true, h hkey]

/-- The fields of a tree with a separator are not read. -/
lemma fields?_separated {tree : Tree} (h : tree.isUnseparated = false)
    (hfuel : (prettyFields level tree.toFields).length < fuel) :
    fields? fuel (prettyFields level tree.toFields ++ newLine outer ++ '\x7d' :: rest) = none := by
  -- the first field whose key or value has a separator is where reading stops: the fields before it
  -- are read as they are written
  induction tree generalizing level outer fuel rest with
  | nil => cases h
  | leaf key value more ih =>
    have hlen := @length_prettyFields_cons level key value.toJson more.toFields
    rw [Tree.toFields] at hfuel ⊢
    obtain ⟨fuel, rfl⟩ : ∃ k, fuel = k + 2 := ⟨fuel - 2, by omega⟩
    cases hkey : Text.isUnseparated key.toList with
    | false => exact fields?_eq_none fun h => absurd h (Bool.eq_false_iff.1 hkey)
    | true =>
      cases hvalue : value.isUnseparated with
      | false =>
        obtain ⟨s, rfl⟩ : ∃ s, value = .text s := by
          cases value with
          | text s => exact ⟨s, rfl⟩
          | number x => cases hvalue
        refine fields?_eq_none fun _ => ?_
        exact (value?_eq_leaf? rfl (by decide)).trans (quoted_separated hvalue).2
      | true =>
        rw [Tree.isUnseparated, hkey, hvalue] at h
        have hread := legibleLeaf_of_isUnseparated hvalue
        rw [fields?_cons hkey (hread _ _ _ ends_afterField), ih h (by omega)]
        rfl
  | table key sub more ihsub ih =>
    have hlen := @length_prettyFields_cons level key (.obj sub.toFields) more.toFields
    have hsublen := @length_prettyChars_obj level sub.toFields
    rw [Tree.toFields] at hfuel ⊢
    obtain ⟨fuel, rfl⟩ : ∃ k, fuel = k + 3 := ⟨fuel - 3, by omega⟩
    cases hkey : Text.isUnseparated key.toList with
    | false => exact fields?_eq_none fun h => absurd h (Bool.eq_false_iff.1 hkey)
    | true =>
      cases hsub : sub.isUnseparated with
      | false =>
        refine fields?_eq_none fun _ => ?_
        rw [value?_space, value?_obj, ihsub hsub (by omega)]
        rfl
      | true =>
        rw [Tree.isUnseparated, hkey, hsub] at h
        rw [fields?_cons hkey, ih h (by omega)]
        · rfl
        · rw [value?_space, value?_obj, fields?_toFields (legible_of_isUnseparated hsub) (by omega)]
          rfl

end Unread

end Json.Relaxed

namespace State

variable {state : State} {ending : List Char}

/-- The fields of a tree with a number that is not finite are not read. -/
lemma addFields_of_not_isFinite {tree : Tree} (hd : tree.Distinct)
    (h : tree.leaves.all (·.2.isFinite) = false) :
    addFields state tree.toFields = .error .noReading := by
  induction tree generalizing state with
  | nil => cases h
  | leaf key value rest ih =>
    rw [Tree.leaves, List.all_cons, Bool.and_eq_false_iff] at h
    rw [Tree.toFields, addFields]
    cases hvalue : value.isFinite with
    | false =>
      rw [Scalar.toJson_of_not_isFinite hvalue]
      rfl
    | true =>
      obtain ⟨leaf, hleaf, -⟩ := Scalar.entryOf_toJson hvalue
      rw [hleaf]
      exact ih hd.2 (h.resolve_left (by simp [hvalue]))
  | table key sub rest ihsub ih =>
    rw [Tree.leaves, List.all_append, List.all_map, Bool.and_eq_false_iff] at h
    rw [Tree.toFields, addFields, entryOf]
    cases hsub : sub.leaves.all (·.2.isFinite) with
    | false =>
      rw [ihsub hd.2.1 hsub]
      rfl
    | true =>
      obtain ⟨read, hread, -⟩ := @ofJson_toJson ⟨sub, hd.2.1⟩ hsub
      rw [toJson, ofJson, addWhole_eq fieldsFault?_toFields] at hread
      rw [hread]
      exact ih hd.2.2 (h.resolve_left (by simpa [Function.comp_def] using hsub))

/-- A writable state that is written in lines is read as an alike state. -/
lemma readRelaxed_of_isWritable (h : state.isWritable = true)
    (hending : ending = [] ∨ ending = ['\n']) :
    ∃ read, readRelaxed (state.toJson.prettyChars 0 ++ ending) = .ok read ∧ state.Alike read := by
  obtain ⟨finite, unseparated⟩ := Bool.and_eq_true_iff.1 h
  rw [readRelaxed_of_legible (Json.Relaxed.legible_of_isUnseparated unseparated) hending]
  exact ofJson_toJson finite

/-- Any other state that is written in lines is not read: a separator breaks the grammar, and else
some number is `null`. -/
lemma readRelaxed_of_not_isWritable (h : state.isWritable = false)
    (hending : ending = [] ∨ ending = ['\n']) :
    readRelaxed (state.toJson.prettyChars 0 ++ ending) =
      .error (if state.tree.isUnseparated then .noReading else .broken .grammar) := by
  cases unseparated : state.tree.isUnseparated with
  | true =>
    rw [isWritable, unseparated, Bool.and_true] at h
    rw [readRelaxed_of_legible (Json.Relaxed.legible_of_isUnseparated unseparated) hending, toJson,
      ofJson, addWhole_eq fieldsFault?_toFields, addFields_of_not_isFinite state.distinct h]
    rfl
  | false =>
    have hlen := @Json.Relaxed.length_prettyChars_obj 0 state.tree.toFields
    have hvalue : Json.Relaxed.value? (2 * (state.toJson.prettyChars 0 ++ ending).length + 2)
        (state.toJson.prettyChars 0 ++ ending) = none := by
      rw [toJson, List.length_append, Json.Relaxed.value?_obj,
        Json.Relaxed.fields?_separated unseparated (by omega)]
      rfl
    rw [readRelaxed, Json.readRelaxed, hvalue]
    rfl

end State

end Gamebook
