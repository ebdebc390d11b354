import Gamebook.Proofs.BlockOrder
import Gamebook.Proofs.Entries
import Gamebook.Proofs.InlineOrder

/-!
# Lexemes in order

The lexemes of a document come in the order of its source, but for links, images and comments inside
of a heading, link or image, which come before it. Main definitions: `Lexeme.LiesIn`,
`Lexeme.Precedes`, `Lexemes.Reached`, `Lexemes.Advance`. Main statement: `reached_lexemesOf`.
-/

namespace Gamebook.Markup

/-- Whether a token is the end of a block. -/
def Token.isBreak : Token → Bool
  | .break => true
  | _ => false

/-- Whether a token may come out of a heading, link or image that it is in. -/
def Token.isInset : Token → Bool
  | link .. => true
  | image .. => true
  | comment _ => true
  | _ => false

/-- Whether other tokens may come out of a token. -/
def Token.isFrame : Token → Bool
  | heading .. => true
  | link .. => true
  | image .. => true
  | _ => false

namespace Lexeme

/-- Whether a lexeme is a link, image or comment inside of a heading, link or image. -/
structure LiesIn (l outer : Lexeme) : Prop where
  /-- The lexeme is a link, an image or a comment. -/
  inset : l.token.isInset = true
  /-- It is in a heading, a link or an image. -/
  frame : outer.token.isFrame = true
  /-- It starts there. -/
  start : outer.span.start ≤ l.span.start
  /-- It stops there. -/
  stop : l.span.stop ≤ outer.span.stop

/-- Whether a lexeme may come before another one: it lies in that one, or starts no later and,
unless one of them is text, stops before that one starts. -/
def Precedes (l later : Lexeme) : Prop :=
  l.LiesIn later ∨ l.span.start ≤ later.span.start ∧
    (l.token.isText = false → later.token.isText = false → l.span.stop ≤ later.span.start)

/-- Whether a lexeme starts before an offset and, if it is no text, also stops there. -/
structure EndsBy (stop : Nat) (l : Lexeme) : Prop where
  /-- The lexeme starts before the offset. -/
  start : l.span.start < stop
  /-- A lexeme that is no text has some characters, and stops no later. -/
  span : l.token.isText = false → l.span.start < l.span.stop ∧ l.span.stop ≤ stop

variable {l : Lexeme} {stop stop' : Nat}

lemma EndsBy.mono (h : l.EndsBy stop) (hle : stop ≤ stop') : l.EndsBy stop' :=
  ⟨Nat.lt_of_lt_of_le h.start hle, fun ht => ⟨(h.span ht).1, Nat.le_trans (h.span ht).2 hle⟩⟩

end Lexeme

namespace Lexemes

/-- The lexemes that are read so far without breaks, last one first. -/
def shown (s : Lexemes) : List Lexeme :=
  s.done.filter (!·.token.isBreak)

/-- Whether the lexemes that are read so far are in order and reach up to an offset. -/
structure Reached (stop : Nat) (s : Lexemes) : Prop where
  /-- Each lexeme may come before those after it. -/
  order : s.shown.Pairwise fun later l => l.Precedes later
  /-- No lexeme starts later. -/
  ends : ∀ l ∈ s.shown, l.EndsBy stop

variable {lo mid hi stop stop' : Nat} {s s' s'' : Lexemes} {span : Span} {token : Token}

lemma Reached.mono (h : s.Reached stop) (hle : stop ≤ stop') : s.Reached stop' :=
  ⟨h.order, fun l hl => (h.ends l hl).mono hle⟩

lemma Reached.congr (h : s.Reached stop) (hs : s'.shown = s.shown) : s'.Reached stop :=
  ⟨hs ▸ h.order, hs ▸ h.ends⟩

/-- A lexeme is in order after those that end before it or lie in it. -/
lemma Reached.push_frame (h : s.Reached mid) (hspan : span.start < span.stop)
    (hmid : mid ≤ span.stop)
    (hl : ∀ l ∈ s.shown, l.EndsBy span.start ∨ l.LiesIn ⟨token, span, s.quoted, s.listed⟩) :
    (s.push token span).Reached span.stop := by
  have hends := (h.mono hmid).ends
  cases hb : token.isBreak with
  | true =>
    have hshown : (s.push token span).shown = s.shown :=
      List.filter_cons_of_neg (by rw [hb]; exact Bool.false_ne_true)
    exact (h.mono hmid).congr hshown
  | false =>
    have hshown : (s.push token span).shown = ⟨token, span, s.quoted, s.listed⟩ :: s.shown :=
      List.filter_cons_of_pos (by rw [hb]; rfl)
    refine ⟨?_, ?_⟩
    · rw [hshown]
      refine List.pairwise_cons.2 ⟨fun l hmem => ?_, h.order⟩
      obtain hbefore | hin := hl l hmem
      · exact .inr ⟨Nat.le_of_lt hbefore.start, fun ht _ => (hbefore.span ht).2⟩
      · exact .inl hin
    · rw [hshown]
      exact List.forall_mem_cons.2 ⟨⟨hspan, fun _ => ⟨hspan, Nat.le_refl _⟩⟩, hends⟩

/-- A lexeme is in order after those that end before it. -/
lemma Reached.push (h : s.Reached lo) (hspan : InOrder lo hi [span]) :
    (s.push token span).Reached hi := by
  obtain ⟨hlo, hlt, hhi⟩ := hspan
  refine Reached.mono (h.push_frame hlt (Nat.le_trans hlo (Nat.le_of_lt hlt)) ?_) hhi
  exact fun l hl => .inl ((h.ends l hl).mono hlo)

/-- A break is not shown. -/
lemma shown_pushBreak : (s.pushBreak span).shown = s.shown := by
  unfold pushBreak
  split
  · rfl
  · rfl

/-- Text is in order after what it may repeat one byte of. -/
lemma Reached.text {chars} (h : s.Reached lo) (hstart : lo ≤ span.start + 1)
    (hmid : span.start < mid) (hle : lo ≤ mid) : (s.text chars span).Reached mid := by
  unfold Lexemes.text
  split
  · exact (h.mono hle).congr rfl
  · exact (h.mono hle).congr rfl
  · exact (h.mono hle).congr rfl
  · next before place quoted listed done _ _ _ hdone =>
    -- the text before it goes on, and only its end changes
    have hshown : s.shown = ⟨.text before, place, quoted, listed⟩ ::
        done.filter (!·.token.isBreak) := by
      rw [shown, hdone]
      rfl
    obtain ⟨horder, hends⟩ := h
    rw [hshown] at horder hends
    obtain ⟨hlast, hothers⟩ := List.pairwise_cons.1 horder
    obtain ⟨hend, hends⟩ := List.forall_mem_cons.1 hends
    refine ⟨List.pairwise_cons.2 ⟨fun l hl => ?_, hothers⟩, List.forall_mem_cons.2 ⟨?_, ?_⟩⟩
    · obtain hin | hbefore := hlast l hl
      · cases hin.frame
      · exact .inr ⟨hbefore.1, fun _ ht => by cases ht⟩
    · exact ⟨Nat.lt_of_lt_of_le hend.start hle, fun ht => by cases ht⟩
    · exact fun l hl => (hends l hl).mono hle
  · refine ⟨List.pairwise_cons.2 ⟨fun l hl => ?_, h.order⟩, List.forall_mem_cons.2 ⟨?_, ?_⟩⟩
    · have hbefore := Nat.lt_of_lt_of_le (h.ends l hl).start hstart
      exact .inr ⟨Nat.le_of_lt_succ hbefore, fun _ ht => by cases ht⟩
    · exact ⟨hmid, fun ht => by cases ht⟩
    · exact fun l hl => (h.ends l hl).mono hle

/-- Whether a link or image that is read afterwards was there before, if there is one. -/
def Kept (before after : Option LinkText) : Prop :=
  after = none ∨ after.map LinkText.start = before.map LinkText.start

lemma Kept.trans {a b c : Option LinkText} (h : Kept a b) (h' : Kept b c) : Kept a c := by
  obtain rfl | h' := h'
  · exact .inl rfl
  · obtain rfl | h := h
    · exact .inl (Option.map_eq_none_iff.1 h')
    · exact .inr (h'.trans h)

lemma Kept.isSome {a b : Option LinkText} (h : Kept a b) (hb : b.isSome = true) :
    a.isSome = true := by
  obtain rfl | h := h
  · cases hb
  · rw [← Option.isSome_map (f := LinkText.start), ← h, Option.isSome_map]
    exact hb

/--
What the text between two offsets does: it keeps the order, opens nothing that stays open, and while
a heading, link or image is open around it, only links, images and comments come out of it.
-/
structure Advance (lo hi : Nat) (s s' : Lexemes) : Prop where
  /-- The lexemes are in order afterwards. -/
  reached : s.Reached lo → s'.Reached hi
  /-- The heading stays open, or there is none. -/
  heading : s'.heading.isSome = s.heading.isSome
  /-- The link stays open, or is given up. -/
  link : Kept s.link s'.link
  /-- The image stays open, or is given up. -/
  image : Kept s.image s'.image
  /-- What comes out of an open heading, link or image. -/
  insets : s'.isInside = true → ∃ made, s'.done = made ++ s.done ∧
    ∀ l ∈ made, l.token.isInset = true ∧ lo ≤ l.span.start ∧ l.span.stop ≤ hi

lemma isInside_of_kept (hheading : s'.heading.isSome = s.heading.isSome)
    (hlink : Kept s.link s'.link) (himage : Kept s.image s'.image) (hs : s'.isInside = true) :
    s.isInside = true := by
  simp only [Lexemes.isInside, Bool.or_eq_true] at hs ⊢
  obtain (hs | hs) | hs := hs
  · exact .inl (.inl (hheading ▸ hs))
  · exact .inl (.inr (hlink.isSome hs))
  · exact .inr (himage.isSome hs)

lemma Advance.isInside (h : Advance lo hi s s') : s'.isInside = true → s.isInside = true :=
  isInside_of_kept h.heading h.link h.image

lemma Advance.trans (h : Advance lo mid s s') (h' : Advance mid hi s' s'') (hlo : lo ≤ mid)
    (hhi : mid ≤ hi) : Advance lo hi s s'' := by
  refine ⟨fun hs => h'.reached (h.reached hs), h'.heading.trans h.heading, h.link.trans h'.link,
    h.image.trans h'.image, fun hs => ?_⟩
  obtain ⟨more, hmore, hinsets'⟩ := h'.insets hs
  obtain ⟨made, hmade, hinsets⟩ := h.insets (h'.isInside hs)
  refine ⟨more ++ made, by rw [hmore, hmade, List.append_assoc], fun l hl => ?_⟩
  obtain hl | hl := List.mem_append.1 hl
  · obtain ⟨hinset, hstart, hstop⟩ := hinsets' l hl
    exact ⟨hinset, Nat.le_trans hlo hstart, hstop⟩
  · obtain ⟨hinset, hstart, hstop⟩ := hinsets l hl
    exact ⟨hinset, hstart, Nat.le_trans hstop hhi⟩

/-- What changes no lexeme and keeps the same open. -/
lemma Advance.of_done (hle : lo ≤ hi) (hdone : s'.done = s.done)
    (hheading : s'.heading.isSome = s.heading.isSome) (hlink : Kept s.link s'.link)
    (himage : Kept s.image s'.image) : Advance lo hi s s' :=
  ⟨fun h => (h.mono hle).congr (by rw [shown, shown, hdone]), hheading, hlink, himage,
    fun _ => ⟨[], hdone, List.forall_mem_nil _⟩⟩

/-- A lexeme that may only come where nothing is open, or comes out of what is open. -/
lemma Advance.push (hspan : InOrder lo hi [span])
    (h : s.isInside = true → token.isInset = true) : Advance lo hi s (s.push token span) :=
  ⟨fun hs => hs.push hspan, rfl, .inr rfl, .inr rfl, fun hs =>
    ⟨[_], rfl, List.forall_mem_singleton.2
      ⟨h hs, hspan.1, hspan.2.2⟩⟩⟩

/-- Text adds to what is open, or else to the lexemes. -/
lemma text_keeps {chars} :
    (s.text chars span).heading.isSome = s.heading.isSome ∧ Kept s.link (s.text chars span).link ∧
      Kept s.image (s.text chars span).image ∧
        (s.isInside = true → (s.text chars span).done = s.done) := by
  unfold Lexemes.text
  split
  · next himage => exact ⟨rfl, .inr rfl, .inr (by rw [himage]; rfl), fun _ => rfl⟩
  · next hlink => exact ⟨rfl, .inr (by rw [hlink]; rfl), .inr rfl, fun _ => rfl⟩
  · next hheading => exact ⟨by rw [hheading]; rfl, .inr rfl, .inr rfl, fun _ => rfl⟩
  · next himage hlink hheading _ =>
    refine ⟨rfl, .inr rfl, .inr rfl, fun hs => ?_⟩
    rw [Lexemes.isInside, himage, hlink, hheading] at hs
    cases hs
  · next himage hlink hheading _ =>
    refine ⟨rfl, .inr rfl, .inr rfl, fun hs => ?_⟩
    rw [Lexemes.isInside, himage, hlink, hheading] at hs
    cases hs

lemma Advance.text {chars} (hstart : lo ≤ span.start + 1) (hmid : span.start < mid)
    (hle : lo ≤ mid) :
    Advance lo mid s (s.text chars span) := by
  obtain ⟨hheading, hlink, himage, hdone⟩ := @text_keeps s span chars
  exact ⟨fun h => h.text hstart hmid hle, hheading, hlink, himage, fun hs =>
    ⟨[], hdone (isInside_of_kept hheading hlink himage hs), List.forall_mem_nil _⟩⟩

lemma Advance.html {chars} (hspan : InOrder lo hi [span]) :
    Advance lo hi s (s.html chars span) := by
  have hle := hspan.le
  unfold Lexemes.html
  split
  · next hheading =>
    split
    · split
      · exact .of_done hle rfl (by rw [hheading]; rfl) (.inr rfl) (.inr rfl)
      · exact .of_done hle rfl rfl (.inr rfl) (.inr rfl)
    · exact .of_done hle rfl rfl (.inr rfl) (.inr rfl)
  · split
    · exact .push hspan fun _ => rfl
    · exact .of_done hle rfl rfl (.inr rfl) (.inr rfl)

/-- A part that is no text and no link keeps the order. -/
lemma Advance.leaf {part : Inline} (hpart : part.leafSpan? = some span)
    (hspan : InOrder lo hi [span]) :
    Advance lo hi s (s.inline part) := by
  have htext {chars} : Advance lo hi s (s.text chars span) :=
    .text (Nat.le_succ_of_le hspan.1) (Nat.lt_of_lt_of_le hspan.2.1 hspan.2.2) hspan.le
  have hpush {token} (h : ¬s.isInside = true) : Advance lo hi s (s.push token span) :=
    .push hspan fun hs => absurd hs h
  cases part with
  | text => cases hpart
  | link => cases hpart
  | run run span =>
    cases hpart
    exact htext
  | lineBreak span =>
    cases hpart
    rw [Lexemes.inline]
    split
    · exact htext
    · next h => exact hpush h
  | code chars span =>
    cases hpart
    rw [Lexemes.inline]
    split
    · exact htext
    · next h => exact hpush h
  | html chars span =>
    cases hpart
    exact .html hspan

/-- What comes out of a heading, link or image is in order before it. -/
lemma Advance.frame (h : Advance span.start span.stop s s') (hopen : s'.isInside = true)
    (htoken : token.isFrame = true) (hspan : span.start < span.stop) (hs : s.Reached span.start) :
    (s'.push token span).Reached span.stop := by
  obtain ⟨made, hmade, hinsets⟩ := h.insets hopen
  refine (h.reached hs).push_frame hspan (Nat.le_refl _) fun l hl => ?_
  rw [shown, hmade, List.filter_append, List.mem_append] at hl
  obtain hl | hl := hl
  · obtain ⟨hinset, hstart, hstop⟩ := hinsets l (List.mem_of_mem_filter hl)
    exact .inr ⟨hinset, htoken, hstart, hstop⟩
  · exact .inl (hs.ends l hl)

/-- None is open where none was. -/
lemma Kept.eq_none {a b : Option LinkText} (h : Kept a b) (ha : a = none) : b = none := by
  obtain h | h := h
  · exact h
  · rw [ha] at h
    exact Option.map_eq_none_iff.1 h

/-- A link or image that stays open starts where it did. -/
lemma Kept.start {a : LinkText} {b : Option LinkText} (h : Kept (some a) b) :
    b = none ∨ ∃ text target, b = some ⟨text, target, a.start⟩ := by
  obtain h | h := h
  · exact .inl h
  · obtain ⟨b, rfl, hb⟩ := Option.map_eq_some_iff.1 h
    exact .inr ⟨b.text, b.target, by rw [← hb]⟩

/-- A link or image comes after what comes out of it, if it is not given up. -/
lemma Advance.inline_link {image children target}
    (h : ∀ s : Lexemes, Advance span.start span.stop s (s.inlines children)) (hlo : lo ≤ span.start)
    (hspan : span.start < span.stop) :
    Advance lo span.stop s (s.inline (.link image children target span)) := by
  have h := h (s.enter image target span.start)
  have hdone : (s.enter image target span.start).done = s.done := by cases image <;> rfl
  rw [Lexemes.inline]
  generalize (s.enter image target span.start).inlines children = s' at h
  have hstart (hs : s.Reached lo) : (s.enter image target span.start).Reached span.start :=
    (hs.mono hlo).congr (by rw [shown, shown, hdone])
  have hinsets (hs : s'.isInside = true) : ∃ made, s'.done = made ++ s.done ∧
      ∀ l ∈ made, l.token.isInset = true ∧ lo ≤ l.span.start ∧ l.span.stop ≤ span.stop := by
    obtain ⟨made, hmade, hall⟩ := h.insets hs
    exact ⟨made, hmade.trans (by rw [hdone]), fun l hl =>
      ⟨(hall l hl).1, Nat.le_trans hlo (hall l hl).2.1, (hall l hl).2.2⟩⟩
  have hclosed {token} (hs : s'.isInside = true) (ht : token.isInset = true) :
      ∃ made, (s'.push token span).done = made ++ s.done ∧
        ∀ l ∈ made, l.token.isInset = true ∧ lo ≤ l.span.start ∧ l.span.stop ≤ span.stop := by
    obtain ⟨made, hmade, hall⟩ := hinsets hs
    exact ⟨_ :: made, congrArg (_ :: ·) hmade,
      List.forall_mem_cons.2 ⟨⟨ht, hlo, Nat.le_refl _⟩, hall⟩⟩
  -- it is given up if a link or image inside of it has closed it, and is pushed behind them if not
  rw [leave]
  cases image with
  | false =>
    obtain hnone | ⟨text, href, hsome⟩ := Kept.start h.link
    · simp only [hnone]
      exact ⟨fun hs => h.reached (hstart hs), h.heading, .inl hnone, h.image, hinsets⟩
    · have hopen : s'.isInside = true := by simp [Lexemes.isInside, hsome]
      simp only [hsome]
      exact ⟨fun hs => (h.frame hopen rfl hspan (hstart hs)).congr rfl, h.heading, .inl rfl, h.image,
        fun _ => hclosed hopen rfl⟩
  | true =>
    obtain hnone | ⟨text, url, hsome⟩ := Kept.start h.image
    · simp only [hnone]
      exact ⟨fun hs => h.reached (hstart hs), h.heading, h.link, .inl hnone, hinsets⟩
    · have hopen : s'.isInside = true := by simp [Lexemes.isInside, hsome]
      simp only [hsome]
      exact ⟨fun hs => (h.frame hopen rfl hspan (hstart hs)).congr rfl, h.heading, h.link, .inl rfl,
        fun _ => hclosed hopen rfl⟩

/-- Parts of running text keep the order. -/
lemma Advance.inlines {parts} (h : InlinesInOrder lo hi parts) :
    Advance lo hi s (s.inlines parts) := by
  induction h generalizing s with
  | nil hle => exact .of_done hle rfl rfl (.inr rfl) (.inr rfl)
  | text hstart hmid hle hrest ih => exact (Advance.text hstart hmid hle).trans ih hle hrest.le
  | leaf hpart hstart hstop hrest ih =>
    exact (Advance.leaf hpart ⟨hstart, hstop, Nat.le_refl _⟩).trans ih
      (Nat.le_trans hstart (Nat.le_of_lt hstop)) hrest.le
  | link hstart hstop hchildren hrest ihchildren ih =>
    exact (Advance.inline_link (fun s => ihchildren) hstart hstop).trans ih
      (Nat.le_trans hstart (Nat.le_of_lt hstop)) hrest.le

/-- Whether the lexemes that are read so far are in order, with nothing open. -/
structure Ready (stop : Nat) (s : Lexemes) : Prop where
  /-- The lexemes reach up to an offset. -/
  reached : s.Reached stop
  /-- No heading, link or image is open. -/
  outside : s.isInside = false

lemma isInside_eq_false :
    s.isInside = false ↔ s.heading = none ∧ s.link = none ∧ s.image = none := by
  simp only [Lexemes.isInside, Bool.or_eq_false_iff, Option.isSome_eq_false_iff,
    Option.isNone_iff_eq_none, and_assoc]

lemma Ready.mono (h : s.Ready stop) (hle : stop ≤ stop') : s.Ready stop' :=
  ⟨h.reached.mono hle, h.outside⟩

lemma Ready.pushBreak (h : s.Ready stop) : (s.pushBreak span).Ready stop := by
  refine ⟨h.reached.congr shown_pushBreak, ?_⟩
  unfold Lexemes.pushBreak
  split <;> exact h.outside

/-- What keeps the order leaves nothing open that was not. -/
lemma Ready.advance (h : s.Ready lo) (ha : Advance lo hi s s') : s'.Ready hi := by
  refine ⟨ha.reached h.reached, Bool.eq_false_iff.2 fun hs => ?_⟩
  have hopen := ha.isInside hs
  rw [h.outside] at hopen
  cases hopen

variable {definitions : List Definition} {tight : Bool}

/-- The text of a paragraph keeps the order. -/
lemma Ready.paragraph {text} (h : s.Ready lo) (htext : InOrder lo hi (text.map Glyph.span)) :
    (s.inlines (inlinesOf definitions text)).Ready hi :=
  h.advance (.inlines (inlinesInOrder_inlinesOf htext))

/-- A heading comes after what comes out of it. -/
lemma Ready.heading {level text} (h : s.Ready lo) (hspan : InOrder lo hi [span])
    (htext : InOrder span.start span.stop (text.map Glyph.span)) :
    (s.block definitions tight (.heading level text span)).Ready hi := by
  obtain ⟨hlo, hlt, hhi⟩ := hspan
  have hadvance : Advance span.start span.stop { s with heading := some ⟨[], none⟩ }
      (inlines { s with heading := some ⟨[], none⟩ } (inlinesOf definitions text)) :=
    .inlines (inlinesInOrder_inlinesOf htext)
  rw [Lexemes.block]
  generalize inlines { s with heading := some ⟨[], none⟩ } (inlinesOf definitions text) = s'
    at hadvance
  obtain ⟨heading, hheading⟩ := Option.isSome_iff_exists.1 (hadvance.heading.trans rfl)
  have hopen : s'.isInside = true := by simp [Lexemes.isInside, hheading]
  obtain ⟨-, hlink, himage⟩ := isInside_eq_false.1 h.outside
  have hbefore : ({ s with heading := some ⟨[], none⟩ } : Lexemes).Reached span.start :=
    (h.reached.mono hlo).congr rfl
  simp only [hheading]
  refine ⟨((hadvance.frame hopen rfl hlt hbefore).mono hhi).congr rfl, ?_⟩
  refine isInside_eq_false.2 ⟨rfl, ?_, ?_⟩
  · exact hadvance.link.eq_none hlink
  · exact hadvance.image.eq_none himage

/-- A block keeps the order when it is read with another flag. -/
lemma Ready.congr (h : s.Ready stop) (hdone : s'.done = s.done) (hs : s'.isInside = s.isInside) :
    s'.Ready stop :=
  ⟨h.reached.congr (by rw [shown, shown, hdone]), hs.trans h.outside⟩

mutual

/-- A block keeps the order. -/
lemma Ready.block {lo hi definitions tight} {s : Lexemes} (h : s.Ready lo) :
    ∀ {block : Block}, block.Within lo hi → (s.block definitions tight block).Ready hi
  | .paragraph text span, hw => by
    rw [Lexemes.block]
    split
    · exact h.paragraph hw
    · exact (h.paragraph hw).pushBreak
  | .heading .., hw => h.heading hw.1 hw.2
  | .fence info content span, hw => by
    rw [Lexemes.block]
    refine Ready.pushBreak ?_
    split
    · exact h.mono (InOrder.le hw)
    · exact h.advance (.push hw fun hs => by rw [h.outside] at hs; cases hs)
  | .indented _, hw => (h.mono hw).pushBreak
  | .html content span, hw => h.advance (.html hw)
  | .quote children span, hw => by
    have hquoted : ({ s with quoted := true } : Lexemes).Ready lo := h.congr rfl rfl
    exact (Ready.blocks hquoted (hw : BlocksWithin lo hi children)).pushBreak.congr rfl rfl
  | .list tight items, hw => Ready.blocks h (hw : BlocksWithin lo hi items)
  | .item children span, hw => by
    have hlisted : ({ s with listed := true } : Lexemes).Ready lo := h.congr rfl rfl
    exact (Ready.blocks hlisted (hw : BlocksWithin lo hi children)).pushBreak.congr rfl rfl

lemma Ready.blocks {lo hi definitions tight} {s : Lexemes} (h : s.Ready lo) :
    ∀ {blocks}, BlocksWithin lo hi blocks → (s.blocks definitions tight blocks).Ready hi
  | [], hw => h.mono hw
  | _ :: _, ⟨_, hblock, hblocks⟩ => (h.block hblock).blocks hblocks

end

end Lexemes

variable {source : List Char}

/-- The lexemes of a source are in order, and end with it. -/
lemma reached_lexemesOf :
    ((lexemesOf source).filter (!·.token.isBreak)).Pairwise Lexeme.Precedes ∧
      ∀ l ∈ (lexemesOf source).filter (!·.token.isBreak), l.EndsBy (Text.byteSize source) := by
  have hempty : Lexemes.empty.Ready 0 := ⟨⟨.nil, List.forall_mem_nil _⟩, rfl⟩
  obtain ⟨⟨horder, hends⟩, -⟩ :=
    @Lexemes.Ready.blocks 0 _ (outlineOf source).2 false _ hempty _ (@blocksWithin_outlineOf source)
  have hshown : (lexemesOf source).filter (!·.token.isBreak) = (Lexemes.shown
      (Lexemes.empty.blocks (outlineOf source).2 false (outlineOf source).1)).reverse :=
    List.filter_reverse
  rw [hshown, List.pairwise_reverse]
  exact ⟨horder, fun l hl => hends l (List.mem_reverse.1 hl)⟩

end Gamebook.Markup
