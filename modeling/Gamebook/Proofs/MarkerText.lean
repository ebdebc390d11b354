import Gamebook.Markup.Printer
import Gamebook.Proofs.Brackets
import Gamebook.Proofs.Shape

/-!
# Markers that are written back

Code inside of a line is read three times: what it means, whether it starts a condition as seen from
the code before it, and, when the story is written, whether it has to be written as it was found.
The three agree except for ways on. One that ends in an opening brace is taken for the start of a
condition from before it, and the expression of a condition that is a way on by itself is written
without the blanks that kept it from being one. Main definitions: `Marker.written`, `Marker.part`.
Main statement: `ofCode_written`.
-/

namespace Gamebook

namespace Text

variable {cs rest ending : List Char}

/-- A text that an ending is dropped from is the rest and the ending. -/
lemma dropSuffix?_eq_some (h : dropSuffix? ending cs = some rest) : cs = rest ++ ending := by
  obtain ⟨reversed, hreversed, rfl⟩ := Option.map_eq_some_iff.1 h
  rw [← List.reverse_reverse cs, dropPrefix?_eq_some_iff.1 hreversed, List.reverse_append,
    List.reverse_reverse]

lemma removeBlanks_append {other : List Char} :
    removeBlanks (cs ++ other) = removeBlanks cs ++ removeBlanks other :=
  List.filter_append ..

lemma removeBlanks_trimStart : removeBlanks (trimStart cs) = removeBlanks cs := by
  induction cs with
  | nil => rfl
  | cons c cs ih =>
    rw [trimStart, List.dropWhile_cons, removeBlanks, removeBlanks, List.filter_cons]
    cases hc : isBlank c with
    | true => exact ih
    | false =>
      rw [if_neg Bool.false_ne_true, List.filter_cons, hc]

lemma removeBlanks_trimEnd : removeBlanks (trimEnd cs) = removeBlanks cs := by
  have h := @removeBlanks_trimStart cs.reverse
  rw [removeBlanks, removeBlanks, List.filter_reverse] at h
  rw [trimEnd, dropEndWhile, removeBlanks, List.filter_reverse, ← trimStart, h, List.reverse_reverse]
  rfl

/-- Trimming takes away blanks only. -/
lemma removeBlanks_trim : removeBlanks (trim cs) = removeBlanks cs := by
  rw [trim, removeBlanks_trimEnd, removeBlanks_trimStart]

/-- A trimmed text stays as it is if a blank is added and taken away again. -/
lemma trim_trim_concat {c : Char} (hc : isBlank c = true) (hne : trim cs ≠ []) :
    trim (trim cs ++ [c]) = trim cs :=
  trim_between [] [c] (List.forall_mem_nil _) (List.forall_mem_singleton.2 hc) hne
    not_isBlank_head_trim not_isBlank_getLast_trim

end Text

namespace Markup

/-- The text without the blank that it may start with. -/
def skipBlank : List Char → List Char
  | [] => []
  | c :: cs => if Text.isBlank c then cs else c :: cs

/-- The text and the target of the link that a text starts with. -/
def linkAhead? (cs : List Char) : Option (List Char × List Char) := do
  let rest ← Text.dropPrefix? ['['] cs
  let (text, rest) ← Text.cutAtFirst? ']' rest
  let rest ← Text.dropPrefix? ['('] rest
  let (target, _) ← Text.cutAtFirst? ')' rest
  some (text, target)

section Ways

variable {code rest : List Char} {way : List Char × List Char}

lemma navigation?_eq :
    navigation? code =
      (Text.dropPrefix? ['-', '>'] code).bind fun rest => linkAhead? (skipBlank rest) := by
  rw [navigation?]
  cases Text.dropPrefix? ['-', '>'] code with
  | none => rfl
  | some rest => cases rest <;> rfl

lemma linkAhead?_eq_some_iff :
    linkAhead? code = some way ↔
      ∃ after, ']' ∉ way.1 ∧ ')' ∉ way.2 ∧
        code = '[' :: (way.1 ++ ']' :: '(' :: (way.2 ++ ')' :: after)) := by
  constructor
  · intro h
    simp only [linkAhead?, Option.bind_eq_bind, Option.bind_eq_some_iff] at h
    obtain ⟨_, hopen, ⟨text, _⟩, htext, _, hround, ⟨target, after⟩, htarget, hway⟩ := h
    cases hway
    obtain ⟨rfl, nottext⟩ := Text.cutAtFirst?_eq_some htext
    obtain ⟨rfl, nottarget⟩ := Text.cutAtFirst?_eq_some htarget
    rw [Text.dropPrefix?_eq_some_iff] at hopen hround
    dsimp only at hround
    exact ⟨after, nottext, nottarget, by rw [hopen, hround]; rfl⟩
  · rintro ⟨after, nottext, nottarget, rfl⟩
    simp only [linkAhead?, Text.dropPrefix?, if_true, Option.bind_eq_bind, Option.bind_some,
      Text.cutAtFirst?_append nottext, Text.cutAtFirst?_append nottarget]

/-- Code is a way on if it is an arrow and a link, with at most one blank in between. What comes
after the link does not matter. -/
lemma navigation?_eq_some_iff :
    navigation? code = some way ↔
      ∃ gap after, code = '-' :: '>' :: gap ++ '[' ::
          (way.1 ++ ']' :: '(' :: (way.2 ++ ')' :: after)) ∧
        (gap = [] ∨ ∃ c, Text.isBlank c = true ∧ gap = [c]) ∧ ']' ∉ way.1 ∧ ')' ∉ way.2 := by
  rw [navigation?_eq, Option.bind_eq_some_iff]
  constructor
  · rintro ⟨rest, hrest, hlink⟩
    have e := Text.dropPrefix?_eq_some_iff.1 hrest
    obtain ⟨after, nottext, nottarget, elink⟩ := linkAhead?_eq_some_iff.1 hlink
    subst e
    cases rest with
    | nil => cases elink
    | cons c cs =>
      rw [skipBlank] at elink
      split at elink
      · next hc =>
        subst elink
        exact ⟨[c], after, rfl, .inr ⟨c, hc, rfl⟩, nottext, nottarget⟩
      · next hc =>
        rw [elink]
        exact ⟨[], after, rfl, .inl rfl, nottext, nottarget⟩
  · rintro ⟨gap, after, rfl, rfl | ⟨c, hc, rfl⟩, nottext, nottarget⟩
    · exact ⟨_, rfl, linkAhead?_eq_some_iff.2 ⟨after, nottext, nottarget, rfl⟩⟩
    · exact ⟨_, rfl, linkAhead?_eq_some_iff.2 ⟨after, nottext, nottarget, if_pos hc⟩⟩

/-- Text without a closing bracket behind code does not make it a way on. -/
lemma navigation?_append (h : ')' ∉ rest) : navigation? (code ++ rest) = navigation? code := by
  refine Option.ext fun way => ?_
  rw [navigation?_eq_some_iff, navigation?_eq_some_iff]
  constructor
  · rintro ⟨gap, after, e, hway⟩
    -- The first bracket that closes the target lies in the code, and so does all before it.
    rw [show '-' :: '>' :: gap ++ '[' :: (way.1 ++ ']' :: '(' :: (way.2 ++ ')' :: after)) =
        ('-' :: '>' :: gap ++ '[' :: (way.1 ++ ']' :: '(' :: way.2)) ++ ')' :: after by
      simp only [List.append_assoc, List.cons_append]] at e
    obtain ⟨middle, -, hrest⟩ | ⟨middle, hcode, hafter⟩ := List.append_eq_append_iff.1 e
    · exact absurd (hrest ▸ List.mem_append_right middle List.mem_cons_self) h
    · cases middle with
      | nil =>
        rw [List.nil_append] at hafter
        exact absurd (hafter ▸ List.mem_cons_self) h
      | cons c middle =>
        obtain rfl := (List.cons.inj hafter).1
        exact ⟨gap, middle, by simp only [hcode, List.append_assoc, List.cons_append], hway⟩
  · rintro ⟨gap, after, rfl, hway⟩
    refine ⟨gap, after ++ rest, ?_, hway⟩
    simp only [List.append_assoc, List.cons_append]

end Ways

section Braces

variable {code e : List Char}

/-- Code is a way on if and only if its arrow and link are found; nothing else comes first. -/
lemma ofCode_eq_navigation_iff {text target} :
    Marker.ofCode code = .navigation text target ↔ navigation? code = some (text, target) := by
  rw [Marker.ofCode]
  constructor
  · intro h
    split at h
    · next way =>
      cases h
      exact way
    · split at h
      · cases h
      · split at h
        · cases h
        · split at h <;> cases h
  · intro h
    rw [h]

lemma ofCode_eq_opening_iff :
    Marker.ofCode code = .opening e ↔
      navigation? code = none ∧ isElseSign code = false ∧ conditionStart? code = some e := by
  rw [Marker.ofCode]
  constructor
  · intro h
    split at h
    · cases h
    · next noWay =>
      split at h
      · cases h
      · next notElse =>
        split at h
        · next start =>
          cases h
          exact ⟨noWay, Bool.eq_false_iff.2 notElse, start⟩
        · split at h <;> cases h
  · rintro ⟨noWay, notElse, start⟩
    simp only [noWay, notElse, start, Bool.false_eq_true, if_false]

/-- A way on is no else sign, which has no arrow. -/
lemma isElseSign_of_navigation? {way} (h : navigation? code = some way) :
    isElseSign code = false := by
  obtain ⟨gap, after, rfl, -⟩ := navigation?_eq_some_iff.1 h
  rfl

lemma isSome_conditionStart? :
    (conditionStart? code).isSome = true ↔ (Text.trimEnd code).getLast? = some '{' := by
  rw [conditionStart?, Option.isSome_map]
  constructor
  · exact Text.getLast?_of_dropSuffix?
  · intro h
    obtain ⟨before, hbefore⟩ := List.getLast?_eq_some_iff.1 h
    rw [hbefore, Text.dropSuffix?_append]
    rfl

/-- Code is taken for the start of a condition from before it if it is one, or if it is a way on that
ends in an opening brace. -/
lemma startsCondition_iff :
    startsCondition code = true ↔
      (∃ e, Marker.ofCode code = .opening e) ∨
        (∃ text target, Marker.ofCode code = .navigation text target) ∧
          (Text.trimEnd code).getLast? = some '{' := by
  rw [startsCondition, Bool.and_eq_true, Bool.not_eq_true', ← isSome_conditionStart?]
  cases h : navigation? code with
  | none =>
    simp only [ofCode_eq_opening_iff, ofCode_eq_navigation_iff, h, Option.isSome_iff_exists,
      true_and, exists_and_left, reduceCtorEq, exists_false, false_and, or_false]
  | some way =>
    simp only [ofCode_eq_opening_iff, ofCode_eq_navigation_iff, h, isElseSign_of_navigation? h,
      true_and, Option.some.injEq, Prod.ext_iff, exists_eq', reduceCtorEq, false_and, exists_false,
      false_or, exists_and_left, and_true]

/-- The expression of a condition and a brace are read as that condition, or as the way on that the
expression is by itself. -/
lemma ofCode_of_opening (h : Marker.ofCode code = .opening e) (hne : e ≠ []) :
    Marker.ofCode (e ++ [' ', '{']) =
      (navigation? e).elim (.opening e) fun way => .navigation way.1 way.2 := by
  obtain ⟨-, notElse, start⟩ := ofCode_eq_opening_iff.1 h
  rw [conditionStart?, Option.map_eq_some_iff] at start
  obtain ⟨body, hbody, rfl⟩ := start
  have same : navigation? (Text.trim body ++ [' ', '{']) = navigation? (Text.trim body) :=
    navigation?_append (by decide)
  cases hway : navigation? (Text.trim body) with
  | some way => exact ofCode_eq_navigation_iff.2 (same.trans hway)
  | none =>
    refine ofCode_eq_opening_iff.2 ⟨same.trans hway, ?_, ?_⟩
    · have blankless : Text.removeBlanks (Text.trim body ++ [' ', '{']) = Text.removeBlanks code := by
        rw [← @Text.removeBlanks_trimEnd code, Text.dropSuffix?_eq_some hbody,
          Text.removeBlanks_append, Text.removeBlanks_append, Text.removeBlanks_trim]
        rfl
      rw [isElseSign, blankless]
      exact notElse
    · have parts : Text.trim body ++ [' ', '{'] = Text.trim body ++ [' '] ++ ['{'] := by
        rw [List.append_assoc]
        rfl
      rw [parts, conditionStart?, Text.trimEnd_concat rfl, Text.dropSuffix?_append, Option.map_some,
        Text.trim_trim_concat rfl hne]

end Braces

/-- The code that is written for code that is read as a marker; code without a meaning is kept. -/
def Marker.written (code : List Char) : Marker → List Char
  | .navigation text target => '-' :: '>' :: '[' :: text ++ ']' :: '(' :: target ++ [')']
  | .opening (c :: cs) => c :: cs ++ [' ', '{']
  | _ => code

/-- The part that code becomes, with the branches of a condition. -/
def Marker.part (code : List Char) (whenTrue whenFalse : List Part) : Marker → Part
  | .navigation text target => .navigation (.ofList text) (.ofList target)
  | .opening (c :: cs) => .condition ⟨.ofList (c :: cs), none, none, none⟩ whenTrue whenFalse
  | _ => .condition ⟨"", none, some (.ofList code), some conditionError⟩ whenTrue whenFalse

section Written

variable {code text target : List Char} {span : Span} {dialect : Dialect}
  {whenTrue whenFalse : List Part}

/-- Code by itself is read as its part. -/
lemma description_code :
    (Draft.empty.code code span []).description = [(Marker.ofCode code).part code [] []] := by
  rw [Draft.code]
  cases Marker.ofCode code with
  | opening e => cases e <;> rfl
  | _ => rfl

/-- A condition is written from the code that opens it or that is kept in its place. -/
lemma markdown_condition {c : Condition} :
    ∃ rest, (Part.condition c whenTrue whenFalse).markdown dialect false =
        codeBlock c.opener ++ rest ∧ (c.isKept = true → rest = []) := by
  by_cases kept : c.isKept = true
  · exact ⟨[], (if_pos kept).trans (List.append_nil _).symm, fun _ => rfl⟩
  · have written : (Part.condition c whenTrue whenFalse).markdown dialect false =
        codeBlock c.opener ++ Part.markdownAll dialect whenTrue ++
          (if whenFalse.isEmpty then []
            else codeBlock ['}', ':', '{'] ++ Part.markdownAll dialect whenFalse) ++
          codeBlock ['}'] := if_neg kept
    rw [List.append_assoc, List.append_assoc] at written
    exact ⟨_, written, fun h => absurd h kept⟩

/-- Code that is kept is written as it was found, without branches unless it starts a condition. -/
lemma markdown_kept {e : String} {audit error : Option String} :
    ∃ rest, (Part.condition ⟨e, audit, some (.ofList code), error⟩ whenTrue whenFalse).markdown
        dialect false = codeBlock code ++ rest ∧
      (startsCondition code = true ∨ rest = []) := by
  have opener : (Condition.mk e audit (some (.ofList code)) error).opener = code :=
    String.toList_ofList
  obtain ⟨rest, hwritten, hrest⟩ :=
    @markdown_condition dialect whenTrue whenFalse ⟨e, audit, some (.ofList code), error⟩
  rw [opener] at hwritten
  refine ⟨rest, hwritten, ?_⟩
  cases starts : startsCondition code with
  | true => exact .inl rfl
  | false =>
    refine .inr (hrest ?_)
    rw [Condition.isKept, Option.any_some, String.toList_ofList, starts]
    rfl

/-- What a part is written as starts with the code that its marker is written as. -/
lemma markdown_part :
    ∃ rest, ((Marker.ofCode code).part code whenTrue whenFalse).markdown dialect false =
        codeBlock ((Marker.ofCode code).written code) ++ rest ∧
      ((∃ e, Marker.ofCode code = .opening e) ∨ rest = []) := by
  obtain ⟨kept, hkept, hrest⟩ :=
    @markdown_kept code dialect whenTrue whenFalse "" none (some conditionError)
  rw [startsCondition_iff] at hrest
  cases h : Marker.ofCode code with
  | navigation text target =>
    refine ⟨[], ?_, .inr rfl⟩
    have written : (Part.navigation (.ofList text) (.ofList target)).markdown dialect false =
        codeBlock ('-' :: '>' :: '[' :: (String.ofList text).toList ++
          ']' :: '(' :: (String.ofList target).toList ++ [')']) := rfl
    simp only [Marker.part, written, String.toList_ofList, List.append_nil, Marker.written]
  | opening e =>
    cases e with
    | nil => exact ⟨kept, hkept, .inl ⟨[], rfl⟩⟩
    | cons c cs =>
      have opener : (Condition.mk (.ofList (c :: cs)) none none none).opener =
          c :: cs ++ [' ', '{'] := congrArg (· ++ [' ', '{']) String.toList_ofList
      obtain ⟨rest, hwritten, -⟩ :=
        @markdown_condition dialect whenTrue whenFalse ⟨.ofList (c :: cs), none, none, none⟩
      rw [opener] at hwritten
      exact ⟨rest, hwritten, .inl ⟨c :: cs, rfl⟩⟩
  | _ =>
    refine ⟨kept, hkept, .inr ?_⟩
    simpa only [h, reduceCtorEq, exists_false, false_and, false_or] using hrest

lemma ofCode_of_navigation (h : Marker.ofCode code = .navigation text target) :
    Marker.ofCode ('-' :: '>' :: '[' :: text ++ ']' :: '(' :: target ++ [')']) =
      .navigation text target := by
  obtain ⟨-, -, -, -, notText, notTarget⟩ :=
    navigation?_eq_some_iff.1 (ofCode_eq_navigation_iff.1 h)
  refine ofCode_eq_navigation_iff.2 (navigation?_eq_some_iff.2
    ⟨[], [], ?_, .inl rfl, notText, notTarget⟩)
  simp only [List.cons_append, List.append_assoc, List.nil_append]

end Written

/-- The two readings of code and the code that is written for it. Code is taken for the start of a
condition from before it if it is one, or if it is a way on that ends in an opening brace. Code by
itself is read as its part, and the part is written with the code of its marker first: that of a way
on is the same way on, that of a condition is the same condition unless the expression is a way on by
itself, and all other code is kept. -/
theorem ofCode_written (code : List Char) (span : Span) (dialect : Dialect)
    (whenTrue whenFalse : List Part) :
    (startsCondition code = true ↔
      (∃ e, Marker.ofCode code = .opening e) ∨
        (∃ text target, Marker.ofCode code = .navigation text target) ∧
          (Text.trimEnd code).getLast? = some '{') ∧
    (Draft.empty.code code span []).description = [(Marker.ofCode code).part code [] []] ∧
    (∃ rest, ((Marker.ofCode code).part code whenTrue whenFalse).markdown dialect false =
        codeBlock ((Marker.ofCode code).written code) ++ rest ∧
      ((∃ e, Marker.ofCode code = .opening e) ∨ rest = [])) ∧
    (∀ text target, Marker.ofCode code = .navigation text target →
      Marker.ofCode ((Marker.ofCode code).written code) = .navigation text target) ∧
    (∀ e, Marker.ofCode code = .opening e → e ≠ [] →
      Marker.ofCode ((Marker.ofCode code).written code) =
        (navigation? e).elim (.opening e) fun way => .navigation way.1 way.2) ∧
    ((∀ text target, Marker.ofCode code ≠ .navigation text target) →
      (∀ e, Marker.ofCode code = .opening e → e = []) →
      (Marker.ofCode code).written code = code) := by
  refine ⟨startsCondition_iff, description_code, markdown_part, ?_, ?_, ?_⟩
  · intro text target h
    rw [h]
    exact ofCode_of_navigation h
  · intro e h hne
    rw [h]
    cases e with
    | nil => exact absurd rfl hne
    | cons c cs => exact ofCode_of_opening h hne
  · intro noWay noExpression
    cases h : Marker.ofCode code with
    | navigation text target => exact absurd h (noWay text target)
    | opening e =>
      rw [noExpression e h]
      rfl
    | _ => rfl

/-- A way on that ends in an opening brace. -/
def arrowAndBrace : List Char :=
  ['-', '>', '[', 'a', ']', '(', 'b', ')', ' ', '{']

/-- A way on is taken for the start of a condition from before it, and a condition that starts with a
blank is written as that way on. -/
theorem arrowAndBrace_misread :
    (startsCondition arrowAndBrace = true ∧
      ∀ e, Marker.ofCode arrowAndBrace ≠ .opening e) ∧
    ∃ e, e ≠ [] ∧ Marker.ofCode (' ' :: arrowAndBrace) = .opening e ∧
      e ++ [' ', '{'] = arrowAndBrace ∧ Marker.ofCode arrowAndBrace = .navigation ['a'] ['b'] := by
  have way : Marker.ofCode arrowAndBrace = .navigation ['a'] ['b'] := by decide
  refine ⟨⟨by decide, ?_⟩, ['-', '>', '[', 'a', ']', '(', 'b', ')'], by decide, by decide, rfl, way⟩
  intro e he
  rw [way] at he
  cases he

/-- A condition that no way on comes into is read back from what is written for it. -/
theorem ofCode_written_bridge :
    let code := ['h', 'p', '>', '1', '{', ' ']
    Marker.ofCode code = .opening ['h', 'p', '>', '1'] ∧
      Marker.ofCode ((Marker.ofCode code).written code) = .opening ['h', 'p', '>', '1'] := by
  have opens : Marker.ofCode ['h', 'p', '>', '1', '{', ' '] = .opening ['h', 'p', '>', '1'] := by
    decide
  exact ⟨opens, (ofCode_written _ ⟨0, 0⟩ .chapter [] []).2.2.2.2.1 _ opens (List.cons_ne_nil _ _)⟩

end Markup

end Gamebook
