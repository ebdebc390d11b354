import Gamebook.Play.Screen
import Gamebook.Proofs.StateText
import Gamebook.Proofs.Terms

/-!
# Stories without dice

Dice are rolled where an expression has an opening square bracket. In a story whose actions and
conditions have none, no dice are drawn, and what a player sees depends on the texts of the leaves
only: states whose leaves are displayed alike give the same parts and leave such states. Main
definitions: `Story.mayRoll`, `Scalar.Calm`, `Story.Diceless`, `Screen.Related`. Main statement:
`Story.follow_calm`.
-/

namespace Gamebook

/-- Whether a text has no term in square brackets. -/
def Diceless (text : String) : Prop :=
  '[' ∉ text.toList

instance (text : String) : Decidable (Diceless text) :=
  inferInstanceAs (Decidable (_ ∉ _))

/-- Alike leaves that no dice come from. -/
def Scalar.Steady (x y : Scalar) : Prop :=
  x.Alike y ∧ Diceless x.display

/-- Sheets with the same paths in the same order and alike leaves that no dice come from. -/
abbrev Sheet.Steady (a b : Sheet) : Prop :=
  a.Related Scalar.Steady b

/-- Trees of the same shape with alike leaves that no dice come from. -/
abbrev Tree.Steady (a b : Tree) : Prop :=
  a.Related Scalar.Steady b

/-- Whether no key on the way to a leaf and no leaf has an opening square bracket. -/
def Tree.Diceless (tree : Tree) : Prop :=
  ∀ e ∈ tree.leaves, (∀ key ∈ e.1, Gamebook.Diceless key) ∧ Gamebook.Diceless e.2.display

instance (tree : Tree) : Decidable tree.Diceless :=
  inferInstanceAs (Decidable (∀ e ∈ tree.leaves, _ ∧ _))

mutual

/-- Whether no action and no condition of a part has an opening square bracket. -/
def Part.Diceless : Part → Prop
  | action a => a.state.tree.Diceless
  | condition c whenTrue whenFalse =>
    Gamebook.Diceless c.expression ∧ DicelessAll whenTrue ∧ DicelessAll whenFalse
  | _ => True

/-- Whether no action and no condition of the parts has an opening square bracket. -/
def Part.DicelessAll : List Part → Prop
  | [] => True
  | part :: parts => part.Diceless ∧ DicelessAll parts

end

/-- Whether no action, no setting and no condition of the sections has an opening square bracket. -/
def Story.Diceless (story : Story) : Prop :=
  story.settings.state.tree.Diceless ∧ ∀ s ∈ story.sections, Part.DicelessAll s.parts

/-- Whether a flat path or a flat leaf of a state has an opening square bracket. -/
def State.mayRoll (state : State) : Bool :=
  state.flatten.entries.any fun e => '[' ∈ e.1.toList || '[' ∈ e.2.display.toList

/-- Whether an action or a condition itself has an opening square bracket. -/
def Part.mayRoll : Part → Bool
  | action a => a.state.mayRoll
  | condition c _ _ => '[' ∈ c.expression.toList
  | _ => false

/-- Whether the settings or an action or condition at any depth have an opening square bracket. -/
def Story.mayRoll (story : Story) : Bool :=
  story.settings.state.mayRoll || story.sections.any fun s => Part.anyOf Part.mayRoll s.parts

/--
Ways of relating leaves that no dice come from: related leaves are displayed alike and without an
opening square bracket, and a leaf that is displayed without one is related to itself.
-/
structure Scalar.Calm (R : Scalar → Scalar → Prop) : Prop where
  display_eq {x y} : R x y → x.display = y.display
  diceless {x y} : R x y → Diceless x.display
  refl {x} : Diceless x.display → R x x

lemma Scalar.calm_steady : Calm Steady where
  display_eq h := h.1.display
  diceless h := h.2
  refl h := ⟨.refl, h⟩

lemma diceless_display {x} : Diceless (Number.display x) :=
  not_mem_display

/-- A text without terms stays as it is, and no dice are rolled. -/
lemma rollTerms_diceless {text g} (h : Diceless text) : rollTerms text g = (⟨text, none⟩, g) :=
  rollTerms_termless (termless_of_not_mem h)

/-- The pieces between separators have no other characters than the text. -/
lemma Text.mem_of_mem_splitOn {c d cs piece} (hp : piece ∈ splitOn c cs) (hd : d ∈ piece) :
    d ∈ cs := by
  induction cs generalizing piece with
  | nil =>
    rw [splitOn, List.mem_singleton] at hp
    subst hp
    exact hd
  | cons x cs ih =>
    rw [splitOn] at hp
    cases e : splitOn c cs with
    | nil => exact (splitOn_ne_nil c cs e).elim
    | cons first pieces =>
      rw [e] at hp ih
      by_cases hx : x = c
      · simp only [hx, if_true, List.mem_cons (a := piece)] at hp
        obtain rfl | hp := hp
        · cases hd
        · exact List.mem_cons_of_mem _ (ih (List.mem_cons.2 hp) hd)
      · simp only [hx, if_false, List.mem_cons (a := piece)] at hp
        obtain rfl | hp := hp
        · obtain rfl | hd := List.mem_cons.1 hd
          · exact List.mem_cons_self
          · exact List.mem_cons_of_mem _ (ih List.mem_cons_self hd)
        · exact List.mem_cons_of_mem _ (ih (List.mem_cons_of_mem _ hp) hd)

/-- The last cut point splits the text there. -/
lemma Text.cutAtLast?_eq_some {c cs before after} (h : cutAtLast? c cs = some (before, after)) :
    cs = before ++ c :: after := by
  induction cs generalizing before with
  | nil => cases h
  | cons d cs ih =>
    rw [cutAtLast?] at h
    cases e : cutAtLast? c cs with
    | some cut =>
      rw [e] at h
      cases h
      exact congrArg (d :: ·) (ih e)
    | none =>
      rw [e] at h
      by_cases hd : d = c
      · simp only [hd, if_true, Option.some.injEq, Prod.mk.injEq] at h
        rw [hd, ← h.1, ← h.2]
        rfl
      · simp only [hd, if_false] at h
        cases h

/-- The expression of a value has no term if neither the path nor the value has one. -/
lemma assignedText_diceless {path raw} (hp : Diceless path) (hr : Diceless raw.display) :
    Diceless (assignedText path raw) := by
  unfold assignedText
  split
  · exact diceless_display
  · next s =>
    have hr : '[' ∉ s.toList := hr
    split
    · next rest e =>
      rw [e, List.mem_cons, List.mem_cons, not_or, not_or] at hr
      simpa [Diceless, hr.2.2] using hp
    · next rest e =>
      rw [e, List.mem_cons, List.mem_cons, not_or, not_or] at hr
      simpa [Diceless, hr.2.2] using hp
    · exact hr

/-- Writing pairs as words without a bracket brings no bracket in. -/
lemma not_mem_replaceDouble {c d piece cs} (hp : d ∉ piece) (hc : d ∉ cs) :
    d ∉ Text.replaceDouble c piece cs := by
  fun_induction Text.replaceDouble c piece cs with
  | case1 => exact hc
  | case2 => exact hc
  | case3 x y cs h ih =>
    rw [List.mem_append, not_or]
    exact ⟨hp, ih fun h => hc (List.mem_cons_of_mem _ (List.mem_cons_of_mem _ h))⟩
  | case4 x y cs h ih =>
    rw [List.mem_cons, not_or] at hc ⊢
    exact ⟨hc.1, ih hc.2⟩

/-- The expression of a condition has no term if the condition has none after it is filled in. -/
lemma conditionText_diceless {sheet condition} (h : Diceless (substitute sheet condition)) :
    Diceless (conditionText sheet condition) := by
  have compact : '[' ∉ Text.removeBlanks (substitute sheet condition).toList := by
    rw [Text.removeBlanks, List.mem_filter]
    exact fun hm => h hm.1
  have and : '[' ∉ " and ".toList := by decide
  have or : '[' ∉ " or ".toList := by decide
  rw [Diceless, conditionText, String.toList_ofList]
  exact not_mem_replaceDouble or (not_mem_replaceDouble and compact)

/-- The keys on a path have no term exactly if the path has none. -/
lemma diceless_joinPath {path} (h : ∀ key ∈ path, Diceless key) : Diceless (joinPath path) := by
  have join : ∀ {pieces : List (List Char)}, (∀ piece ∈ pieces, '[' ∉ piece) →
      '[' ∉ Text.joinWith ['.'] pieces := by
    intro pieces hp
    induction pieces with
    | nil => exact List.not_mem_nil
    | cons piece pieces ih =>
      have hpiece := hp piece List.mem_cons_self
      have ih := ih fun piece h => hp piece (List.mem_cons_of_mem _ h)
      cases pieces with
      | nil => exact hpiece
      | cons next pieces => simp [Text.joinWith, hpiece, ih]
  rw [Diceless, joinPath, String.toList_ofList]
  refine join fun piece hp => ?_
  obtain ⟨key, hk, rfl⟩ := List.mem_map.1 hp
  exact h key hk

/-- The flat leaves of a tree without terms have no terms. -/
lemma Tree.Diceless.flatten {tree : Tree} (h : tree.Diceless) {e} (he : e ∈ tree.flatten.entries) :
    Gamebook.Diceless e.1 ∧ Gamebook.Diceless e.2.display := by
  obtain ⟨⟨path, leaf⟩, hl, rfl⟩ := List.mem_map.1 (Sheet.mem_ofList he)
  exact ⟨diceless_joinPath (h _ hl).1, (h _ hl).2⟩

section Calm

variable {R : Scalar → Scalar → Prop} (hR : Scalar.Calm R) {a b : Sheet} {cs : List Char}

include hR

/-- A group is replaced in the same way with related leaves. -/
lemma substituteGroup_congr (h : a.Related R b) : substituteGroup a cs = substituteGroup b cs := by
  rw [substituteGroup, substituteGroup]
  cases Text.cutAtLast? '{' cs with
  | none => rfl
  | some cut =>
    have h : Option.Rel R (a.get? (.ofList cut.2)) (b.get? (.ofList cut.2)) := h.get?
    simp only
    generalize a.get? (.ofList cut.2) = x at h
    generalize b.get? (.ofList cut.2) = y at h
    cases h with
    | none => rfl
    | some h => simp only [hR.display_eq h]

/-- A text is passed over in the same way with related leaves. -/
lemma substitutePass_congr (h : a.Related R b) : substitutePass a = substitutePass b := by
  have pieces : ∀ pieces, substitutePieces a pieces = substitutePieces b pieces := by
    intro pieces
    induction pieces with
    | nil => rfl
    | cons piece pieces ih =>
      cases pieces with
      | nil => rfl
      | cons next pieces =>
        exact congrArg₂ (· ++ ·) (substituteGroup_congr hR h) ih
  funext cs
  exact pieces _

/-- A text is filled in in the same way with related leaves. -/
lemma substitute_congr (h : a.Related R b) {text} : substitute a text = substitute b text := by
  rw [substitute, substitute, substitutePass_congr hR h]

/-- A replaced group has no term in square brackets. -/
lemma substituteGroup_diceless (h : a.Related R b) (hc : '[' ∉ cs) :
    '[' ∉ substituteGroup a cs := by
  have closed : '[' ∉ cs ++ ['}'] := by simpa using hc
  rw [substituteGroup]
  cases e : Text.cutAtLast? '{' cs with
  | none => exact closed
  | some cut =>
    obtain ⟨before, key⟩ := cut
    rw [Text.cutAtLast?_eq_some e, List.mem_append, not_or] at hc
    have h : Option.Rel R (a.get? (.ofList key)) (b.get? (.ofList key)) := h.get?
    simp only
    generalize a.get? (.ofList key) = x at h
    generalize b.get? (.ofList key) = y at h
    cases h with
    | none => exact closed
    | some h =>
      rw [List.mem_append, not_or]
      exact ⟨hc.1, hR.diceless h⟩

/-- A text without terms in square brackets has none after it is filled in. -/
lemma substitute_diceless (h : a.Related R b) {text} (ht : Diceless text) :
    Diceless (substitute a text) := by
  have pieces : ∀ pieces : List (List Char), (∀ piece ∈ pieces, '[' ∉ piece) →
      '[' ∉ substitutePieces a pieces := by
    intro pieces hp
    induction pieces with
    | nil => exact List.not_mem_nil
    | cons piece pieces ih =>
      have hpiece := hp piece List.mem_cons_self
      cases pieces with
      | nil => exact hpiece
      | cons next pieces =>
        have ih := ih fun piece h => hp piece (List.mem_cons_of_mem _ h)
        rw [show substitutePieces a (piece :: next :: pieces) =
          substituteGroup a piece ++ substitutePieces a (next :: pieces) from rfl, List.mem_append,
          not_or]
        exact ⟨substituteGroup_diceless hR h hpiece, ih⟩
  have pass : ∀ cs, '[' ∉ cs → '[' ∉ substitutePass a cs := fun cs hc =>
    pieces _ fun piece hp hd => hc (Text.mem_of_mem_splitOn hp hd)
  have passes : ∀ n, '[' ∉ Nat.repeat (substitutePass a) n text.toList := by
    intro n
    induction n with
    | zero => exact ht
    | succ n ih => exact pass _ ih
  rw [Diceless, substitute, String.toList_ofList]
  exact passes maxPasses

/-- The leaf that a text stands for has no term if the text has none. -/
lemma leafOfText_diceless (h : a.Related R b) {text} (ht : Diceless text) :
    Diceless (leafOfText a text).display := by
  rw [leafOfText]
  split
  · exact diceless_display
  · next t _ =>
    cases t with
    | true => exact (by decide : '[' ∉ "true".toList)
    | false => exact (by decide : '[' ∉ "false".toList)
  · rw [Scalar.coerce]
    split
    · split
      · exact diceless_display
      · exact substitute_diceless hR h ht
    · exact substitute_diceless hR h ht

/-- An assignment without terms gives the same leaf with related leaves and rolls no dice. -/
lemma assignedValue_calm (h : a.Related R b) {path raw} {g g' : Generator} (hp : Diceless path)
    (hr : Diceless raw.display) :
    ∃ leaf, assignedValue path raw a g = (⟨leaf, none⟩, g) ∧
      assignedValue path raw b g' = (⟨leaf, none⟩, g') ∧ Diceless leaf.display := by
  -- nothing is rolled in the text that is filled in, so the generators do not matter
  have ht := substitute_diceless hR h (assignedText_diceless hp hr)
  refine ⟨leafOfText a (substitute a (assignedText path raw)), ?_, ?_, leafOfText_diceless hR h ht⟩
  · rw [assignedValue, rollTerms_diceless ht]
  · rw [assignedValue, ← substitute_congr hR h, rollTerms_diceless ht]
    simp only [leafOfText, substitute_congr hR h]

lemma scope_calm {assignments : Sheet} (h : a.Related R b) :
    (scope assignments a).Related R (scope assignments b) := by
  refine Sheet.Related.overlay (.ofList (List.forall₂_same.2 fun e he => ⟨rfl, hR.refl ?_⟩)) h
  obtain ⟨path, -, rfl⟩ := List.mem_map.1 he
  exact diceless_display

/-- An account of an assignment is the same where the leaf was related before. -/
lemma auditEntry?_congr {path prior prior' assigned} (h : Option.Rel R prior prior') :
    auditEntry? path prior assigned = auditEntry? path prior' assigned := by
  cases h with
  | none => rfl
  | some h =>
    unfold auditEntry?
    cases assigned.trail with
    | none => simp only [hR.display_eq h]
    | some trail => simp only [hR.display_eq h]

/-- Assignments without terms do the same on related sheets, and no dice are rolled. -/
lemma assignAll_calm {assignments : Sheet} {leaves} {g g' : Generator} (h : a.Related R b)
    (hl : ∀ e ∈ leaves, Diceless e.1 ∧ Diceless e.2.display) :
    (assignAll assignments leaves a g).1.entries = (assignAll assignments leaves b g').1.entries ∧
      (assignAll assignments leaves a g).1.sheet.Related R
        (assignAll assignments leaves b g').1.sheet ∧
      (assignAll assignments leaves a g).2 = g := by
  induction leaves generalizing a b with
  | nil => exact ⟨rfl, h, rfl⟩
  | cons e leaves ih =>
    obtain ⟨path, raw⟩ := e
    obtain ⟨hp, hr⟩ := hl _ List.mem_cons_self
    have seen : (scope assignments a).Related R (scope assignments b) := scope_calm hR h
    obtain ⟨leaf, ha, hb, hleaf⟩ := @assignedValue_calm R hR _ _ seen path raw g g' hp hr
    have next : (a.insert path leaf).Related R (b.insert path leaf) := h.insert (hR.refl hleaf)
    obtain ⟨entries, sheets, spared⟩ := ih next fun e he => hl e (List.mem_cons_of_mem _ he)
    simp only [assignAll, ha, hb]
    refine ⟨?_, sheets, spared⟩
    rw [entries, auditEntry?_congr hR h.get?]

/-- A condition without terms is decided in the same way on related sheets without dice. -/
lemma decideCondition_calm {condition} {g g' : Generator} (h : a.Related R b)
    (hc : Diceless condition) :
    ∃ decision, decideCondition condition a g = (decision, g) ∧
      decideCondition condition b g' = (decision, g') := by
  have ht : conditionText b condition = conditionText a condition := by
    rw [conditionText, conditionText, substitute_congr hR h]
  have hd := conditionText_diceless (substitute_diceless hR h hc)
  rw [decideCondition, decideCondition, ht, rollTerms_diceless hd, rollTerms_diceless hd]
  exact ⟨_, rfl, rfl⟩

end Calm

/-- The flat paths and leaves of a state that rolls no dice have no terms. -/
lemma State.diceless_of_mayRoll {state : State} (h : state.mayRoll = false) {e}
    (he : e ∈ state.flatten.entries) : Diceless e.1 ∧ Diceless e.2.display := by
  have h := List.any_eq_false.1 h e he
  rwa [Bool.or_eq_true, not_or, decide_eq_true_eq, decide_eq_true_eq] at h

/-- A state that rolls no dice gives leaves that are related to themselves. -/
lemma State.calm_of_mayRoll {R : Scalar → Scalar → Prop} (hR : Scalar.Calm R) {state : State}
    (h : state.mayRoll = false) : state.flatten.Related R state.flatten :=
  List.forall₂_same.2 fun _ he => ⟨rfl, hR.refl (diceless_of_mayRoll h he).2⟩

/-- A state without brackets rolls no dice. -/
lemma Tree.Diceless.mayRoll {state : State} (h : state.tree.Diceless) : state.mayRoll = false := by
  refine List.any_eq_false.2 fun e he => ?_
  rw [Bool.or_eq_true, not_or, decide_eq_true_eq, decide_eq_true_eq]
  exact h.flatten he

namespace Part

/-- Two readings that show the same parts and leave related leaves, the first one without dice. -/
structure CalmReadings (R : Scalar → Scalar → Prop) (g : Generator) (r s : Reading) : Prop where
  /-- The parts to show are the same. -/
  parts : r.parts = s.parts
  /-- The leaves are related. -/
  sheet : r.sheet.Related R s.sheet
  /-- No dice are rolled. -/
  spared : r.generator = g

mutual

/-- A part without terms is read in the same way with related leaves and any generators. -/
lemma read_calm {R : Scalar → Scalar → Prop} (hR : Scalar.Calm R) {a b : Sheet} {g g'}
    (h : a.Related R b) :
    ∀ {part : Part}, part.anywhere mayRoll = false →
      CalmReadings R g (part.read a g) (part.read b g')
  | header _, _ => ⟨rfl, h, rfl⟩
  | link _, _ => ⟨rfl, h, rfl⟩
  | image _, _ => ⟨rfl, h, rfl⟩
  | paragraph text quoting, _ => ⟨by rw [read, read, substitute_congr hR h], h, rfl⟩
  | comment _, _ => ⟨rfl, h, rfl⟩
  | navigation _ _, _ => ⟨rfl, h, rfl⟩
  | action act, hp => by
    obtain ⟨entries, sheets, spared⟩ := @assignAll_calm R hR a b act.state.flatten
      act.state.flatten.entries g g' h fun e he => State.diceless_of_mayRoll hp he
    refine ⟨?_, sheets, spared⟩
    simp only [read, Action.run, Applied.audit, entries]
  | condition c whenTrue whenFalse, hp => by
    rw [anywhere, Bool.or_eq_false_iff, Bool.or_eq_false_iff] at hp
    obtain ⟨⟨hc, htrue⟩, hfalse⟩ := hp
    obtain ⟨decision, first, second⟩ := @decideCondition_calm R hR a b c.expression g g' h
      (of_decide_eq_false hc)
    have yes := @readAll_calm R hR a b g g' h whenTrue htrue
    have no := @readAll_calm R hR a b g g' h whenFalse hfalse
    simp only [read, first, second]
    cases decision.holds with
    | true => exact ⟨congrArg (_ :: ·) yes.parts, yes.sheet, yes.spared⟩
    | false => exact ⟨congrArg (_ :: ·) no.parts, no.sheet, no.spared⟩

/-- Parts without terms are read in the same way with related leaves and any generators. -/
lemma readAll_calm {R : Scalar → Scalar → Prop} (hR : Scalar.Calm R) {a b : Sheet} {g g'}
    (h : a.Related R b) :
    ∀ {parts : List Part}, anyOf mayRoll parts = false →
      CalmReadings R g (readAll a g parts) (readAll b g' parts)
  | [], _ => ⟨rfl, h, rfl⟩
  | part :: parts, hp => by
    rw [anyOf, Bool.or_eq_false_iff] at hp
    have first := @read_calm R hR a b g g' h part hp.1
    have rest := @readAll_calm R hR _ _ (part.read a g).generator (part.read b g').generator
      first.sheet parts hp.2
    refine ⟨?_, rest.sheet, rest.spared.trans first.spared⟩
    simp only [readAll, first.parts, rest.parts]

end

mutual

/-- A part whose actions and conditions have no brackets rolls no dice. -/
lemma Diceless.mayRoll : ∀ {part : Part}, part.Diceless → part.anywhere Part.mayRoll = false
  | header _, _ => rfl
  | link _, _ => rfl
  | image _, _ => rfl
  | paragraph _ _, _ => rfl
  | comment _, _ => rfl
  | navigation _ _, _ => rfl
  | action _, hp => Tree.Diceless.mayRoll hp
  | condition c whenTrue whenFalse, hp => by
    rw [anywhere, DicelessAll.mayRoll hp.2.1, DicelessAll.mayRoll hp.2.2, Bool.or_false,
      Bool.or_false]
    exact decide_eq_false hp.1

/-- Parts whose actions and conditions have no brackets roll no dice. -/
lemma DicelessAll.mayRoll :
    ∀ {parts : List Part}, DicelessAll parts → anyOf Part.mayRoll parts = false
  | [], _ => rfl
  | part :: parts, hp => by
    rw [anyOf, Diceless.mayRoll hp.1, DicelessAll.mayRoll hp.2, Bool.or_false]

end

end Part

/-- Screens that show the same and leave states of the same shape with related leaves. -/
structure Screen.Related (R : Scalar → Scalar → Prop) (screen other : Screen) : Prop where
  /-- The section asked for. -/
  origin : screen.origin = other.origin
  /-- The parts. -/
  parts : screen.parts = other.parts
  /-- The text for a narrator. -/
  narration : screen.narration = other.narration
  /-- The state. -/
  state : screen.state.tree.Related R other.state.tree

/-- Screens with related leaves have leaves that are related in a weaker way. -/
lemma Screen.Related.imp {R S : Scalar → Scalar → Prop} {screen other : Screen}
    (h : screen.Related R other) (hi : ∀ {x y}, R x y → S x y) : screen.Related S other :=
  ⟨h.origin, h.parts, h.narration, h.state.imp hi⟩

/-- A section without terms is read in the same way with related states, and no dice are rolled. -/
lemma Section.resolve_calm {R : Scalar → Scalar → Prop} (hR : Scalar.Calm R) {s : Section}
    {state state' settings : State} {g g'} (hs : Part.anyOf Part.mayRoll s.parts = false)
    (hd : settings.mayRoll = false) (h : state.tree.Related R state'.tree) :
    (s.resolve state settings g).1.parts = (s.resolve state' settings g').1.parts ∧
      (s.resolve state settings g).1.state.tree.Related R
        (s.resolve state' settings g').1.state.tree ∧
      (s.resolve state settings g).2 = g := by
  have reading := @Part.readAll_calm R hR _ _ g g' ((State.calm_of_mayRoll hR hd).overlay h.flatten)
    s.parts hs
  exact ⟨reading.parts, reading.sheet.without.rebuild, reading.spared⟩

lemma Story.settings_of_mayRoll {story : Story} (hs : story.mayRoll = false) :
    story.settings.state.mayRoll = false :=
  (Bool.or_eq_false_iff.1 hs).1

lemma Story.parts_of_mayRoll {story : Story} (hs : story.mayRoll = false) {id s}
    (hid : story.section? id = some s) : Part.anyOf Part.mayRoll s.parts = false :=
  Bool.eq_false_iff.2
    (List.any_eq_false.1 (Bool.or_eq_false_iff.1 hs).2 s (List.mem_of_find?_eq_some hid))

/--
Sections without terms make the same screen with related states and any generators, and no dice are
rolled.
-/
lemma Story.follow_calm {R : Scalar → Scalar → Prop} (hR : Scalar.Calm R) {story : Story}
    (hs : story.mayRoll = false) {revisits depth visited id} {state state' : State} {g g'}
    (h : state.tree.Related R state'.tree) :
    (story.follow revisits depth visited id state g).1.Related R
        (story.follow revisits depth visited id state' g').1 ∧
      (story.follow revisits depth visited id state g).2 = g := by
  induction depth generalizing visited id state state' g g' with
  | zero => exact ⟨⟨rfl, rfl, rfl, h⟩, rfl⟩
  | succ depth ih =>
    cases hid : story.section? id with
    | none =>
      simp only [follow, hid]
      exact ⟨⟨rfl, rfl, rfl, h⟩, trivial⟩
    | some s =>
      obtain ⟨parts, left, spared⟩ := @Section.resolve_calm R hR s state state'
        story.settings.state g g' (parts_of_mayRoll hs hid) (settings_of_mayRoll hs) h
      -- the section is the last one, unless its only way on is followed
      have stay : (Screen.ofPassage s (s.resolve state story.settings.state g).1).Related R
          (Screen.ofPassage s (s.resolve state' story.settings.state g').1) :=
        ⟨rfl, parts, congrArg Gamebook.narration parts, left⟩
      simp only [follow, hid, parts]
      cases onlyTarget? (s.resolve state' story.settings.state g').1.parts with
      | none => exact ⟨stay, spared⟩
      | some target =>
        by_cases hr : revisits = .rejected ∧ target ∈ s.id :: visited
        · simp only [if_pos hr]
          exact ⟨stay, spared⟩
        · simp only [if_neg hr]
          obtain ⟨next, unused⟩ := @ih (s.id :: visited) target _ _
            (s.resolve state story.settings.state g).2
            (s.resolve state' story.settings.state g').2 left
          have all := congrArg
            (withoutLinks (s.resolve state' story.settings.state g').1.parts ++ ·) next.parts
          exact ⟨⟨rfl, all, congrArg Gamebook.narration all, next.state⟩, unused.trans spared⟩

/-- A story without brackets rolls no dice. -/
lemma Story.Diceless.mayRoll {story : Story} (hs : story.Diceless) : story.mayRoll = false := by
  refine Bool.or_eq_false_iff.2 ⟨Tree.Diceless.mayRoll hs.1, List.any_eq_false.2 fun s hm => ?_⟩
  exact Bool.eq_false_iff.1 (Part.DicelessAll.mayRoll (hs.2 s hm))

/-- Sections without brackets make the same screen with alike states, with any generators. -/
lemma Story.follow_steady {story : Story} (hs : story.Diceless) {revisits depth visited id}
    {state state' : State} {g g'} (h : state.tree.Steady state'.tree) :
    (story.follow revisits depth visited id state g).1.Related Scalar.Steady
      (story.follow revisits depth visited id state' g').1 :=
  (follow_calm Scalar.calm_steady hs.mayRoll h).1

end Gamebook
