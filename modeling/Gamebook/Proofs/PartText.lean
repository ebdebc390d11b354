import Gamebook.Proofs.BlockText

/-!
# Tokens of parts

The text of a plain part is read as the tokens of the part, whatever stands before and after it;
links in a row are items of one list. Main definition: `Part.shown`. Main statement:
`Part.reads_markdownAll`.
-/

namespace Gamebook

open Markup

namespace Markup

/-- The text and the address of a link have no end of a line. -/
lemma oneLine_labelText {text address} (ht : Text.Plain text)
    (ha : ∀ c ∈ address, isAddressChar c = true) :
    OneLine (Inlines.labelText text address) :=
  (OneLine.of_plain ht).append (@OneLine.append [']', '('] _ (by decide)
    (.append (.of_address ha) (by decide)))

/-- Text that may stand between backticks in a line. -/
structure Coded (cs : List Char) : Prop where
  /-- There is no backtick in it. -/
  unticked : Unticked cs
  /-- There is no end of a line in it. -/
  oneLine : OneLine cs
  /-- It starts with no space and no backtick. -/
  start : ∃ c ds, cs = c :: ds ∧ c ≠ ' ' ∧ c ≠ '\x60'

namespace Coded

variable {cs text address : List Char}

/-- The text is the code. -/
lemma codeText (h : Coded cs) : codeText cs = cs := by
  have hmap : (cs.map fun c => if c = '\n' then ' ' else c) = cs := by
    refine (List.map_congr_left fun c hc => ?_).trans (List.map_id cs)
    exact if_neg (h.oneLine c hc).1
  obtain ⟨c, ds, rfl, hc, -⟩ := h.start
  rw [Markup.codeText, hmap]
  simp [hc]

/-- Code may start a line. -/
lemma running (h : Coded cs) : Running ('\x60' :: (cs ++ ['\x60'])) := by
  obtain ⟨c, ds, rfl, -, hc⟩ := id h.start
  refine ⟨OneLine.cons (by decide) (h.oneLine.append (by decide)), ⟨_, _, rfl, rfl⟩, ?_,
    fun rest => definition?_of_ne (by decide)⟩
  have htake : ('\x60' :: (c :: ds ++ ['\x60'])).takeWhile (· == '\x60') = ['\x60'] := by
    rw [List.takeWhile_cons_of_pos rfl, List.cons_append, List.takeWhile_cons_of_neg (by simp [hc])]
  rw [openingFence?]
  simp only [htake, List.length_singleton, Nat.reduceLeDiff, if_false, ite_self]

/-- Settled text may stand between backticks if it starts with no space. -/
lemma of_settled (h : Settled cs) (hline : OneLine cs) (hc : cs.head? ≠ some ' ') : Coded cs := by
  refine ⟨.of_settled h, hline, ?_⟩
  obtain ⟨c, ds, rfl⟩ := List.exists_cons_of_ne_nil h.ne
  refine ⟨c, ds, rfl, fun e => hc (congrArg some e), ?_⟩
  rintro rfl
  exact absurd (h.inert _ List.mem_cons_self) (by decide)

/-- A way on is code. -/
lemma navigation (ht : Text.Plain text) (ha : ∀ c ∈ address, isAddressChar c = true) :
    Coded ('-' :: '>' :: '[' :: Inlines.labelText text address) := by
  refine ⟨?_, ?_, ⟨'-', _, rfl, by decide, by decide⟩⟩
  · have hmarked : ∀ offset after,
        StartsMarked (glyphsFrom offset ('[' :: Inlines.labelText text address) ++ after) :=
      fun _ _ => .of_eq .linkStart (fun _ => ⟨_, piecesFrom_linkStart⟩) (by rintro _ ⟨⟩)
    exact @Unticked.append ['-', '>'] _ (.of_settled (by decide))
      (.labelText ht.settled ha) hmarked
  · exact @OneLine.append ['-', '>', '['] _ (by decide) (oneLine_labelText ht ha)

/-- The start of a comparison is code. -/
lemma comparison (h : Text.isComparison cs = true) : Coded (cs ++ [' ', '{']) := by
  obtain ⟨name, hname, rfl⟩ := Text.exists_of_isComparison h
  have hplain := Text.plain_of_isName hname
  refine .of_settled ?_ (.append (oneLine_of_isComparison h) (by decide)) (by simp)
  have hend : ∀ c ∈ "\x7d > 1 ".toList ++ ['{'], isInert c = true :=
    List.all_eq_true.1 rfl
  refine ⟨by simp, ?_, ?_⟩
  · intro c hc
    rw [List.cons_append, List.append_assoc, List.mem_cons, List.mem_append] at hc
    obtain rfl | hc | hc := hc
    · rfl
    · exact hplain.settled.inert c hc
    · exact hend c hc
  · intro c hc
    obtain rfl : '{' = c := by simpa [List.getLast?_cons, List.getLast?_append] using hc
    decide

end Coded

/-- Prose may start a line. -/
lemma running_of_isProse {cs} (h : Text.isProse cs = true) : Running cs := by
  obtain ⟨c, ds, rfl, hc⟩ := Text.isProse_cons h
  have hc' : isOpening c = true := by simp [isOpening, hc]
  refine ⟨OneLine.of_plain (Text.plain_of_isProse h), ⟨c, ds, rfl, hc'⟩, ?_,
    fun rest => definition?_of_ne (Text.ne_of_kind hc rfl)⟩
  rw [openingFence?]
  exact if_neg fun h => h.elim (fun h => Text.ne_of_kind hc rfl h.1) (Text.ne_of_kind hc rfl)

/-- A link may start a line. -/
lemma running_link {text address} (ht : Text.Plain text)
    (ha : ∀ c ∈ address, isAddressChar c = true) :
    Running ('[' :: Inlines.labelText text address) :=
  ⟨OneLine.cons (by decide) (oneLine_labelText ht ha), ⟨_, _, rfl, rfl⟩, rfl,
    fun _ => definition?_labelText ht.settled⟩

/-- An image may start a line, with more text after it. -/
lemma running_image {text address more} (ht : Text.Plain text)
    (ha : ∀ c ∈ address, isAddressChar c = true) (hmore : OneLine more) :
    Running ('!' :: '[' :: Inlines.labelText text address ++ more) :=
  ⟨OneLine.append (.cons (by decide) (.cons (by decide) (oneLine_labelText ht ha))) hmore,
    ⟨_, _, rfl, rfl⟩, rfl, fun _ => definition?_of_ne (by decide)⟩

/-- Nothing is left out of a heading that ends with neither a space nor a sign of headings. -/
lemma trimHeading_of_last {cs c} (h : cs.getLast? = some c) (h₁ : c ≠ ' ') (h₂ : c ≠ '#') :
    trimHeading cs = cs := by
  obtain ⟨ds, rfl⟩ := List.getLast?_eq_some_iff.1 h
  rw [trimHeading]
  simp [h₁, h₂]

/-- Plain text starts with no white space. -/
lemma isSpace_head_of_plain {cs} (h : Text.Plain cs) : ∀ c ∈ cs.head?, isSpace c = false := by
  intro c hc
  have hne : c ≠ ' ' := fun e => h.first (by rw [← e]; exact hc)
  have := @Text.forall_isPlainChar (fun c => c == ' ' || !isSpace c) (by decide) (by decide) rfl c
    (h.chars c (List.mem_of_mem_head? hc))
  simpa [hne] using this

/-- Nothing is left out of a heading of plain text. -/
lemma trimHeading_of_plain {cs} (h : Text.Plain cs) : trimHeading cs = cs := by
  have hlast := List.getLast?_eq_some_getLast h.ne
  refine trimHeading_of_last hlast (fun e => h.last (by rw [hlast, e])) ?_
  exact Text.ne_of_kind (h.chars _ (List.getLast_mem h.ne)) rfl

namespace Reads

variable {P : Outline → Prop} {ts ts' : List Shown} {cs text : List Char}

/-- A blank line may follow a block. -/
lemma concat (h : Reads P cs (Between ts)) : Reads P (cs ++ ['\n']) (Between ts) :=
  h.append (.blank fun _ _ _ ho => ho.blank)

/-- A line of running text and a blank line are a paragraph. -/
lemma paragraph (hcs : Running cs) (hs : SpellsLine false false cs ts') :
    Reads (Between ts) (cs ++ ['\n', '\n']) (Between (ts ++ (ts' ++ [(.break, none)]))) := by
  have hline : Reads (Between ts) (cs ++ ['\n']) (Pending (ts ++ (ts' ++ [(.break, none)]))) :=
    .line hcs.oneLine fun o start beforeBlank ho => ho.running hcs hs
  rw [show cs ++ ['\n', '\n'] = cs ++ ['\n'] ++ ['\n'] by simp]
  exact hline.append (.blank fun o start beforeBlank ho => ho.blank)

/-- A line after the sign of a quote and a blank line are a paragraph in a quote. -/
lemma quoted (hcs : Running cs) (hs : SpellsLine true false cs ts') :
    Reads (Between ts) ('>' :: ' ' :: cs ++ ['\n', '\n'])
      (Between (ts ++ (ts' ++ [(.break, none)]))) := by
  have hline : Reads (Between ts) ('>' :: ' ' :: cs ++ ['\n'])
      (Pending (ts ++ (ts' ++ [(.break, none)]))) :=
    .line (.cons (by decide) (.cons (by decide) hcs.oneLine)) fun o start beforeBlank ho =>
      ho.quoted hcs hs
  rw [show '>' :: ' ' :: cs ++ ['\n', '\n'] = '>' :: ' ' :: cs ++ ['\n'] ++ ['\n'] by simp]
  exact hline.append (.blank fun o start beforeBlank ho => ho.blank)

/-- A line after the sign of an item is a paragraph in an item. -/
lemma item (hcs : Running cs) (hs : SpellsLine false true cs ts') :
    Reads (fun o => Between ts o ∨ Pending ts o) ('-' :: ' ' :: cs ++ ['\n'])
      (Pending (ts ++ (ts' ++ [(.break, none)]))) :=
  .line (.cons (by decide) (.cons (by decide) hcs.oneLine)) fun _ _ _ ho => listed ho hcs hs

/-- A comment and a blank line are a comment. -/
lemma comment (htext : Noted text) (hline : OneLine text) :
    Reads (Between ts) ('<' :: noteText text ++ ['\n', '\n'])
      (Between (ts ++ [(.comment text, none)])) := by
  have hnote : OneLine ('<' :: noteText text) :=
    @OneLine.append ['<', '!', '-', '-', '-', ' '] _ (by decide) (hline.append (by decide))
  have hcomment : Reads (Between ts) ('<' :: noteText text ++ ['\n'])
      (Between (ts ++ [(.comment text, none)])) := .line hnote fun _ _ _ ho => ho.comment htext
  rw [show '<' :: noteText text ++ ['\n', '\n'] = '<' :: noteText text ++ ['\n'] ++ ['\n'] by simp]
  exact hcomment.concat

/-- Code in a line of its own and a blank line are the code and a break. -/
lemma code (hcs : Coded cs) :
    Reads (Between ts) (codeBlock cs) (Between (ts ++ [(.code cs, none), (.break, none)])) := by
  obtain ⟨c, ds, e, -, hc⟩ := id hcs.start
  have := @paragraph ts [(.code cs, none)] _ hcs.running fun offset after ha =>
    spells_code hcs.unticked hcs.codeText ⟨c, ds, e, hc⟩ ha
  simpa [codeBlock] using this

/-- A heading and a blank line are a heading. -/
lemma heading {level} (hlevel : level < 6) (hline : OneLine text)
    (ht : ∀ c ∈ text.head?, isSpace c = false) (htrim : trimHeading text = text)
    (hs : ∀ offset span,
      Yields false false false [.heading (level + 1) (glyphsFrom offset text) span] ts') :
    Reads (Between ts) ('#' :: (List.replicate level '#' ++ ' ' :: text) ++ ['\n', '\n'])
      (Between (ts ++ ts')) := by
  have hsign : OneLine ('#' :: (List.replicate level '#' ++ ' ' :: text)) := by
    refine .cons (by decide) (.append (fun c hc => ?_) (.cons (by decide) hline))
    rw [List.eq_of_mem_replicate hc]
    decide
  have hheading : Reads (Between ts) ('#' :: (List.replicate level '#' ++ ' ' :: text) ++ ['\n'])
      (Between (ts ++ ts')) := .line hsign fun _ _ _ ho => ho.heading hlevel ht htrim hs
  have := hheading.concat
  simpa using this

/-- Lines between fences are a block of code after what is read before them. -/
lemma fence {name} (hline : OneLine name)
    (hname : openingFence? ('\x60' :: '\x60' :: '\x60' :: name) = some ('\x60', 3))
    (hinfo : unescape ((name.dropWhile isSpace).reverse.dropWhile isSpace).reverse = name)
    (hcs : Enclosed cs) :
    Reads (Between ts)
      ('\x60' :: '\x60' :: '\x60' :: name ++ '\n' :: (cs ++ ['\x60', '\x60', '\x60', '\n']))
      (fun o => ∃ blocks span afterBlank, Yields false false false blocks.reverse ts ∧
        o = ⟨[], .fence name cs span :: blocks, none, afterBlank, none, []⟩) := by
  have hopen : Reads (Between ts) ('\x60' :: '\x60' :: '\x60' :: name ++ ['\n'])
      (Fenced ts name []) :=
    .line (@OneLine.append ['\x60', '\x60', '\x60'] _ (by decide) hline)
      fun o start beforeBlank ho => ho.fence hname hinfo
  have hclose : Reads (Fenced ts name cs) (['\x60', '\x60', '\x60'] ++ ['\n'])
      (fun o => ∃ blocks span afterBlank, Yields false false false blocks.reverse ts ∧
        o = ⟨[], .fence name cs span :: blocks, none, afterBlank, none, []⟩) :=
    .line (by decide) fun o start beforeBlank ho => ho.close
  have := hopen.append (hcs.reads.append hclose)
  simpa using this

/-- Lines of a block of code and a blank line are a block of code and a break. -/
lemma json (hcs : Enclosed cs) :
    Reads (Between ts) ("\x60\x60\x60json\n".toList ++ cs ++ "\x60\x60\x60".toList ++ ['\n', '\n'])
      (Between (ts ++ [(.fence "json".toList cs, none), (.break, none)])) := by
  have hfence := @fence ts _ "json".toList (by decide) (by decide) (by decide) hcs
  have hyields : ∀ span, Yields false false false [.fence "json".toList cs span]
      [(.fence "json".toList cs, none), (.break, none)] := by
    have htrim : Text.trim "json".toList = "json".toList := by decide
    have hinfo : Text.trim "json".toList ≠ flowchartInfo.toList := by decide
    intro span
    have := @Yields.fence false false false span _ cs hinfo
    rwa [htrim] at this
  have hclosed : Reads (Between ts) _
      (Between (ts ++ [(.fence "json".toList cs, none), (.break, none)])) :=
    hfence.imp (fun _ => id) fun o ho => by
      obtain ⟨blocks, span, afterBlank, hblocks, rfl⟩ := ho
      refine .top ?_
      rw [List.reverse_cons]
      exact hblocks.append (hyields span)
  have := hclosed.concat
  simpa using this

/-- The block of a plain action and a blank line are a block of code and a break. -/
lemma action {a : Action} (h : a.isPlain = true) :
    Reads (Between ts) (a.markdown ++ ['\n', '\n'])
      (Between (ts ++ [(.fence "json".toList (a.state.toJson.prettyChars 0 ++ ['\n']), none),
        (.break, none)])) := by
  have := @json ts _ (@State.enclosed_prettyChars a.state)
  rw [Action.markdown_of_isPlain h]
  simpa using this

end Reads

end Markup

/-- The tokens of code in a line of its own. -/
def codeShown (code : List Char) : List Shown :=
  [(.code code, none), (.break, none)]

/-- The tokens of an image. -/
def Image.shown (image : Image) : List Shown :=
  (.image image.text.toList (image.url.getD "").toList, none) ::
    match image.description with
    | none => []
    | some text => [(.comment text.toList, none)]

namespace Part

mutual

/-- The tokens that a part is read as. -/
def shown : Part → List Shown
  | paragraph text quoting => [(.text text.toList, quoting), (.break, none)]
  | comment text => [(.comment text.toList, none)]
  | image i => i.shown ++ [(.break, none)]
  | link l => [(.link l.text.toList l.target.toList, none), (.break, none)]
  | navigation text target =>
    codeShown ('-' :: '>' :: '[' :: Inlines.labelText text.toList target.toList)
  | action a =>
    [(.fence "json".toList (a.state.toJson.prettyChars 0 ++ ['\n']), none), (.break, none)]
  | condition c whenTrue whenFalse =>
    codeShown c.opener ++ shownAll whenTrue ++
      (if whenFalse.isEmpty then [] else codeShown ['}', ':', '{'] ++ shownAll whenFalse) ++
      codeShown ['}']
  | header text => [(.heading 2 text.toList none, none)]

/-- The tokens of parts in order. -/
def shownAll : List Part → List Shown
  | [] => []
  | part :: parts => part.shown ++ shownAll parts

end

section Written

variable {dialect : Dialect} {beforeLink : Bool} {text target : String}

lemma markdown_paragraph {quoting} :
    (paragraph text quoting).markdown dialect beforeLink =
      Quoting.sign quoting ++ text.toList ++ ['\n', '\n'] :=
  rfl

lemma markdown_comment :
    (comment text).markdown dialect beforeLink = '<' :: noteText text.toList ++ ['\n', '\n'] := by
  rw [show (comment text).markdown dialect beforeLink =
    "<!--- ".toList ++ text.toList ++ " -->\n\n".toList from rfl]
  simp [noteText]

lemma markdown_image {i : Image} :
    (image i).markdown dialect beforeLink = i.markdown ++ ['\n', '\n'] :=
  rfl

lemma markdown_link {l : Link} :
    (link l).markdown dialect beforeLink =
      '-' :: ' ' :: '[' :: Inlines.labelText l.text.toList l.target.toList ++
        if beforeLink then ['\n'] else ['\n', '\n'] := by
  rw [show (link l).markdown dialect beforeLink =
    "- [".toList ++ l.text.toList ++ ']' :: '(' :: l.target.toList ++
      ')' :: (if beforeLink then ['\n'] else ['\n', '\n']) from rfl]
  simp [Inlines.labelText]

lemma markdown_navigation :
    (navigation text target).markdown dialect beforeLink =
      codeBlock ('-' :: '>' :: '[' :: Inlines.labelText text.toList target.toList) := by
  rw [show (navigation text target).markdown dialect beforeLink =
    codeBlock ('-' :: '>' :: '[' :: text.toList ++ ']' :: '(' :: target.toList ++ [')']) from rfl]
  simp [Inlines.labelText]

lemma markdown_action {a : Action} :
    (action a).markdown dialect beforeLink = a.markdown ++ ['\n', '\n'] :=
  rfl

lemma markdown_condition {c : Condition} {whenTrue whenFalse : List Part} (h : c.isKept = false) :
    (condition c whenTrue whenFalse).markdown dialect beforeLink =
      codeBlock c.opener ++ markdownAll dialect whenTrue ++
        (if whenFalse.isEmpty then []
          else codeBlock ['}', ':', '{'] ++ markdownAll dialect whenFalse) ++
        codeBlock ['}'] :=
  if_neg (h.trans_ne Bool.false_ne_true)

lemma markdown_header :
    (header text).markdown .scene beforeLink =
      '#' :: (List.replicate 1 '#' ++ ' ' :: text.toList) ++ ['\n', '\n'] := by
  rw [show (header text).markdown .scene beforeLink =
    "## ".toList ++ text.toList ++ ['\n', '\n'] from rfl]
  simp

lemma markdownAll_cons {part parts} :
    markdownAll dialect (part :: parts) =
      part.markdown dialect (startsWithLink parts) ++ markdownAll dialect parts :=
  rfl

end Written

/-- The outlines in which parts may be read: a link goes on with the list of the link before it. -/
def Waiting (parts : List Part) (ts : List Shown) (o : Outline) : Prop :=
  Between ts o ∨ (startsWithLink parts = true ∧ Pending ts o)

/-- Whether the text of a part, with any parts after it, is read as its tokens. -/
def Readable (dialect : Dialect) (part : Part) : Prop :=
  ∀ ts parts, Reads (Waiting [part] ts) (part.markdown dialect (startsWithLink parts))
    (Waiting parts (ts ++ part.shown))

namespace Readable

variable {dialect : Dialect} {part : Part}

/-- A part whose text starts and ends outside of paragraphs is readable. -/
lemma of_between (hpart : startsWithLink [part] = false)
    (h : ∀ ts parts, Reads (Between ts) (part.markdown dialect (startsWithLink parts))
      (Between (ts ++ part.shown))) : Readable dialect part := by
  intro ts parts
  refine (h ts parts).imp (fun o ho => ?_) fun o ho => .inl ho
  obtain ho | ⟨hlink, -⟩ := ho
  · exact ho
  · rw [hpart] at hlink
    cases hlink

/-- A link is readable. -/
lemma link {l : Link} (h : (Part.link l).isSimple = true) : Readable dialect (.link l) := by
  simp only [isSimple, Bool.and_eq_true] at h
  have ht := Text.plain_of_isProse h.1.1
  have ha := isAddressChar_of_isTarget h.1.2
  intro ts parts
  have hitem := @Reads.item ts [(.link l.text.toList l.target.toList, none)] _ (running_link ht ha)
    fun offset after hafter => spells_link ht.settled ha hafter
  -- the item of a link goes on with the list of a link before it, and ends only before other parts
  have hwaiting : ∀ o, Waiting [.link l] ts o → Between ts o ∨ Pending ts o :=
    fun o ho => ho.imp id And.right
  rw [markdown_link]
  cases hparts : startsWithLink parts with
  | true => exact hitem.imp hwaiting fun o ho => .inr ⟨hparts, ho⟩
  | false =>
    have hblank : Reads (Pending (ts ++ shown (.link l))) ['\n']
        (Waiting parts (ts ++ shown (.link l))) :=
      .blank fun o start beforeBlank ho => .inl ho.blank
    have := (hitem.imp hwaiting fun _ => id).append hblank
    simpa using this

/-- A paragraph is readable, however it is set apart. -/
lemma paragraph {text : String} {quoting} (h : Text.isProse text.toList = true) :
    Readable dialect (.paragraph text quoting) := by
  have hrunning := running_of_isProse h
  have hspells : ∀ quoted listed, SpellsLine quoted listed text.toList
      [(.text text.toList,
        if quoted then some .blockquote else if listed then some .citation else none)] :=
    fun quoted listed offset after ha => spells_settled (Text.plain_of_isProse h).settled ha
  refine of_between rfl fun ts parts => ?_
  rw [markdown_paragraph, shown]
  cases quoting with
  | none => exact Reads.paragraph hrunning (hspells false false)
  | some quoting =>
    cases quoting with
    | blockquote => exact Reads.quoted hrunning (hspells true false)
    | citation =>
      have hitem := (Reads.item hrunning (hspells false true)).append
        (@Reads.blank _ (Between (ts ++ [(.text text.toList, some .citation), (.break, none)]))
          fun o start beforeBlank ho => ho.blank)
      have := hitem.imp (fun o ho => .inl ho) fun _ => id
      simpa [Quoting.sign] using this

/-- A comment is readable. -/
lemma comment {text : String} (h : Text.isProse text.toList = true) :
    Readable dialect (.comment text) := by
  have ht := Text.plain_of_isProse h
  refine of_between rfl fun ts parts => ?_
  rw [markdown_comment, shown]
  exact .comment (noted_of_plain ht) (.of_plain ht)

/-- A way on is readable. -/
lemma navigation {text target : String} (h : (Part.navigation text target).isSimple = true) :
    Readable dialect (.navigation text target) := by
  simp only [isSimple, Bool.and_eq_true] at h
  have hcode := Coded.navigation (Text.plain_of_isProse h.1) (isAddressChar_of_isTarget h.2)
  refine of_between rfl fun ts parts => ?_
  rw [markdown_navigation, shown]
  exact .code hcode

/-- An action is readable. -/
lemma action {a : Action} (h : a.isPlain = true) : Readable dialect (.action a) := by
  refine of_between rfl fun ts parts => ?_
  rw [markdown_action, shown]
  exact .action h

/-- The place of a plain image is an address. -/
lemma isAddressChar_url {url : Option String}
    (h : (url.all fun url => Text.isName url.toList) = true) :
    ∀ c ∈ (url.getD "").toList, isAddressChar c = true := by
  cases url with
  | none => exact List.forall_mem_nil _
  | some url => exact isAddressChar_of_isName h

/-- An image is readable. -/
lemma image {i : Image} (h : i.isPlain = true) : Readable dialect (.image i) := by
  simp only [Image.isPlain, Bool.and_eq_true] at h
  have ht := Text.plain_of_isProse h.1.1
  have ha := isAddressChar_url h.1.2
  refine of_between rfl fun ts parts => ?_
  obtain ⟨text, url, description⟩ := i
  cases description with
  | none =>
    have hrunning := @running_image _ _ [] ht ha (List.forall_mem_nil _)
    rw [List.append_nil] at hrunning
    have := @Reads.paragraph ts [(.image text.toList (url.getD "").toList, none)] _ hrunning
      fun offset after hafter => spells_image ht.settled ha hafter
    rw [markdown_image]
    simpa [shown, Image.markdown, Image.shown, Inlines.labelText] using this
  | some note =>
    have hnote := @Text.plain_of_isProse note.toList h.2
    have hline : OneLine ('<' :: noteText note.toList) :=
      @OneLine.append ['<', '!', '-', '-', '-', ' '] _ (by decide)
        ((OneLine.of_plain hnote).append (by decide))
    have := @Reads.paragraph ts
      [(.image text.toList (url.getD "").toList, none), (.comment note.toList, none)] _
      (running_image ht ha hline)
      fun offset after hafter => spells_image_note ht.settled ha (noted_of_plain hnote) hafter
    rw [markdown_image]
    simpa [shown, Image.markdown, Image.shown, Inlines.labelText, noteText] using this

/-- A header is readable where scenes have headers. -/
lemma header {text : String} (h : Text.isProse text.toList = true) :
    Readable .scene (.header text) := by
  have ht := Text.plain_of_isProse h
  refine of_between rfl fun ts parts => ?_
  rw [markdown_header, shown]
  exact .heading (by decide) (.of_plain ht) (isSpace_head_of_plain ht) (trimHeading_of_plain ht)
    fun offset span => .heading ht

/-- A plain part that is neither a header nor a condition is readable. -/
lemma of_isSimple (h : part.isSimple = true) : Readable dialect part := by
  cases part with
  | header text => cases h
  | link l => exact link h
  | image i => exact image h
  | paragraph text quoting => exact paragraph h
  | comment text => exact comment h
  | navigation text target => exact navigation h
  | condition c whenTrue whenFalse => cases h
  | action a => exact action h

/-- Readable parts are read one after the other. -/
lemma all {parts : List Part} (h : ∀ part ∈ parts, Readable dialect part) {ts} :
    Reads (Waiting parts ts) (markdownAll dialect parts) (Between (ts ++ shownAll parts)) := by
  induction parts generalizing ts with
  | nil =>
    rw [shownAll, List.append_nil]
    refine .nil fun o ho => ?_
    obtain ho | ⟨hlink, -⟩ := ho
    · exact ho
    · cases hlink
  | cons part parts ih =>
    -- only the first part matters to what may stand before the parts
    have hwaiting : Waiting (part :: parts) ts = Waiting [part] ts := by
      cases part <;> rfl
    have hpart := h part List.mem_cons_self ts parts
    have hparts := @ih (fun p hp => h p (List.mem_cons_of_mem part hp)) (ts ++ part.shown)
    rw [markdownAll_cons, shownAll, hwaiting, ← List.append_assoc]
    exact hpart.append hparts

/-- A condition with readable branches is readable. -/
lemma condition {c : Condition} {whenTrue whenFalse : List Part} (hc : c.isPlain = true)
    (htrue : ∀ part ∈ whenTrue, Readable dialect part)
    (hfalse : ∀ part ∈ whenFalse, Readable dialect part) :
    Readable dialect (.condition c whenTrue whenFalse) := by
  simp only [Condition.isPlain, Bool.and_eq_true, Option.isNone_iff_eq_none] at hc
  obtain ⟨expression, audit, source, error⟩ := c
  obtain ⟨⟨⟨hexpression, rfl⟩, rfl⟩, rfl⟩ := hc
  have hopening := Coded.comparison hexpression
  have hotherwise : Coded ['}', ':', '{'] := .of_settled (by decide) (by decide) (by decide)
  have hclosing : Coded ['}'] := .of_settled (by decide) (by decide) (by decide)
  have hbranch : ∀ {parts}, (∀ part ∈ parts, Readable dialect part) → ∀ ts,
      Reads (Between ts) (markdownAll dialect parts) (Between (ts ++ shownAll parts)) :=
    fun h ts => (all h).imp (fun o ho => .inl ho) fun _ => id
  have helse : ∀ ts, Reads (Between ts)
      (if whenFalse.isEmpty then [] else codeBlock ['}', ':', '{'] ++ markdownAll dialect whenFalse)
      (Between (ts ++
        if whenFalse.isEmpty then [] else codeShown ['}', ':', '{'] ++ shownAll whenFalse)) := by
    intro ts
    split
    · rw [List.append_nil]
      exact .nil fun _ => id
    · rw [← List.append_assoc]
      exact (Reads.code hotherwise).append (hbranch hfalse _)
  refine of_between rfl fun ts parts => ?_
  have := (((@Reads.code ts _ hopening).append (hbranch htrue _)).append (helse _)).append
    (Reads.code hclosing)
  rw [markdown_condition rfl, shown]
  simp only [List.append_assoc] at this ⊢
  exact this

/-- A plain part is readable. -/
lemma of_isPlain (h : part.isPlain dialect = true) : Readable dialect part := by
  cases part with
  | header text =>
    simp only [isPlain, Bool.and_eq_true, decide_eq_true_eq] at h
    obtain ⟨rfl, h⟩ := h
    exact header h
  | condition c whenTrue whenFalse =>
    simp only [isPlain, Bool.and_eq_true] at h
    exact condition h.1.1 (fun part hpart => of_isSimple (List.all_eq_true.1 h.1.2 part hpart))
      fun part hpart => of_isSimple (List.all_eq_true.1 h.2 part hpart)
  | _ => exact of_isSimple h

end Readable

/-- Plain parts are read as their tokens. -/
theorem reads_markdownAll {dialect} {parts : List Part}
    (h : parts.all (isPlain dialect) = true) {ts} :
    Reads (Between ts) (markdownAll dialect parts) (Between (ts ++ shownAll parts)) :=
  (Readable.all fun part hpart => .of_isPlain (List.all_eq_true.1 h part hpart)).imp
    (fun _ ho => .inl ho) fun _ => id

end Part

end Gamebook
