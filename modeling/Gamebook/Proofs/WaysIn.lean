import Gamebook.Proofs.Connected
import Gamebook.Proofs.MarkerText
import Gamebook.Proofs.Resume
import Gamebook.Proofs.SlugText

/-!
# Ways into a section

A player gets into a section by starting there, by a link, or by a bookmark. A link leads into
every section; a start drops every `#` before a name and so misses the sections whose names start
with one, and the text of a bookmark ends a name at its first `?` and needs a name. The names that
are made from headings with some text in them are good for all ways. Main definition:
`Session.Enters`. Main statements: `Bookmark.read_text_eq_ok_iff`, `Session.ways_in`.
-/

namespace Gamebook

section Names

variable {cs : List Char} {heading : String}

lemma Text.lowercaseAfter_ne_nil {before} {c : Char} : lowercaseAfter before (c :: cs) ≠ [] := by
  rw [lowercaseAfter]
  refine List.append_ne_nil_of_left_ne_nil ?_ _
  split
  · exact List.cons_ne_nil _ _
  · rw [lowerChar]
    split
    · exact List.cons_ne_nil _ _
    · split <;> exact List.cons_ne_nil _ _

lemma Text.percentEncodeChar_ne_nil {c : Char} : percentEncodeChar c ≠ [] := by
  rw [percentEncodeChar]
  split
  · exact List.cons_ne_nil _ _
  · rw [String.utf8EncodeChar]
    split_ifs <;> exact List.cons_ne_nil _ _

/-- The name that is made from a heading with some text has some text. -/
lemma Text.slugify_ne (h : heading ≠ "") : slugify heading ≠ "" := by
  obtain ⟨c, cs, hcs⟩ := List.exists_cons_of_ne_nil (mt String.toList_eq_nil_iff.1 h)
  obtain ⟨d, ds, hds⟩ := List.exists_cons_of_ne_nil (@lowercaseAfter_ne_nil cs [] c)
  intro hnone
  have hslug := congrArg String.toList hnone
  rw [slugify, String.toList_ofList, slugText, hcs, lowercase, hds, List.map_cons,
    List.flatMap_cons] at hslug
  exact percentEncodeChar_ne_nil (List.append_eq_nil_iff.1 hslug).1

/-- A name that is made from a heading has no sign that the ways in divide names by. -/
lemma Text.not_mem_slugify : '#' ∉ (slugify heading).toList ∧ '?' ∉ (slugify heading).toList :=
  ⟨fun h => (not_mem_of_isSlug (isSlug_slugify heading) h).1 (by decide),
    fun h => (not_mem_of_isSlug (isSlug_slugify heading) h).1 (by decide)⟩

end Names

section Bookmarks

/-- A text with a question mark is the payload of no state. -/
lemma State.ofPayload_of_mem {text : String} {state : State} (h : '?' ∈ text.toList) :
    State.ofPayload text ≠ .ok state := by
  intro hstate
  have htrim : '?' ∈ Text.trim text.toList := by
    have hkept : '?' ∈ Text.removeBlanks (Text.trim text.toList) := by
      rw [Text.removeBlanks_trim]
      exact List.mem_filter.2 ⟨h, rfl⟩
    exact (List.mem_filter.1 hkept).1
  have hpayload : '?' ∈ (Text.dropPrefix? stateKey (Text.trim text.toList)).getD
      (Text.trim text.toList) := by
    cases hdrop : Text.dropPrefix? stateKey (Text.trim text.toList) with
    | none => exact htrim
    | some rest =>
      rw [Text.dropPrefix?_eq_some_iff.1 hdrop, List.mem_append] at htrim
      exact htrim.resolve_left (by decide)
  generalize hp : (Text.dropPrefix? stateKey (Text.trim text.toList)).getD
    (Text.trim text.toList) = payload at hpayload
  have hbyte : 63 ∈ Text.utf8 payload := List.mem_flatMap.2 ⟨'?', hpayload, by decide⟩
  simp only [ofPayload, hp, if_neg (List.ne_nil_of_mem hpayload)] at hstate
  cases hdecode : Text.Base64.decode (Text.utf8 payload) with
  | error fault =>
    rw [hdecode] at hstate
    cases hstate
  | ok bytes =>
    obtain hfiller | hvalue := Text.Base64.mem_of_decode hdecode hbyte
    · cases hfiller
    · cases hvalue

namespace Bookmark

variable {b b' : Bookmark}

/-- The text of a bookmark is not read if the name of the section has a question mark. -/
lemma read_text_of_mem (h : '?' ∈ b.sectionId.toList) : Bookmark.read b.text ≠ .ok b' := by
  intro hread
  obtain ⟨before, after, hid, hbefore⟩ := List.eq_append_cons_of_mem h
  have htext : Text.trim b.text.toList =
      '#' :: (before ++ '?' :: (after ++ '?' :: b.state.query.toList)) := by
    rw [trim_text, hid, List.append_assoc, List.cons_append]
  simp only [read, htext, Text.dropPrefix?, if_true, Option.getD_some,
    Text.cutAtFirst?_append hbefore] at hread
  split at hread
  · cases hread
  -- the rest of the name is read as a part of the payload
  · have hquery : '?' ∈ (String.ofList (after ++ '?' :: b.state.query.toList)).toList := by
      rw [String.toList_ofList]
      exact List.mem_append_right _ List.mem_cons_self
    cases hstate : State.ofPayload (.ofList (after ++ '?' :: b.state.query.toList)) with
    | error fault =>
      rw [hstate] at hread
      cases hread
    | ok state => exact State.ofPayload_of_mem hquery hstate

/-- The text of a bookmark is read as a bookmark exactly if its section has a name without a
question mark and the document of its state is read. It names the same section. -/
lemma read_text_eq_ok_iff :
    Bookmark.read b.text = .ok b' ↔
      (b.sectionId ≠ "" ∧ '?' ∉ b.sectionId.toList) ∧ b'.sectionId = b.sectionId ∧
        State.read b.state.text = .ok b'.state := by
  constructor
  · intro hread
    have hmark : '?' ∉ b.sectionId.toList := fun h => read_text_of_mem h hread
    simp only [read, trim_text, Text.dropPrefix?, if_true, Option.getD_some,
      Text.cutAtFirst?_append hmark, String.ofList_toList, State.ofPayload_query_eq] at hread
    split at hread
    · cases hread
    · next hne =>
      cases hstate : State.read b.state.text with
      | error mismatch =>
        rw [hstate] at hread
        cases hread
      | ok state =>
        rw [hstate] at hread
        cases hread
        exact ⟨⟨mt String.toList_eq_nil_iff.2 hne, hmark⟩, rfl, rfl⟩
  · rintro ⟨hid, hname, hread⟩
    rw [read_text_of_read hid hread, ← hname]

end Bookmark

end Bookmarks

namespace Session

/-- Whether a session goes on by entering a section with a state. -/
structure Enters (session : Session) (s : Section) (state : State) (next : Session) : Prop where
  /-- The story and the configuration stay the same. -/
  same : next.story = session.story ∧ next.config = session.config
  /-- The bookmark is the name of the section with the state. -/
  bookmark : next.bookmark = some ⟨s.id, state⟩
  /-- The screen is the one of the section with the state. -/
  screen : next.screen =
    (session.story.resolveNext session.config s.id state session.generator).1
  /-- The section is the first one that is shown, if any is shown. -/
  origin : 0 < session.config.maxDepth → next.screen.origin = some s

variable {session next : Session} {state : State} {story : Story} {s first : Section}

lemma story_fresh {config g} : (fresh story config g).story = story :=
  rfl

lemma origin_follow {revisits depth visited id g} (h : story.section? id = some s) :
    (story.follow revisits (depth + 1) visited id state g).1.origin = some s := by
  rw [Story.follow, h]
  simp only
  split
  · rfl
  · split <;> rfl

/-- A section that is the first one of its name can be entered by its name. -/
lemma exists_enters (h : session.story.section? s.id = some first) :
    ∃ next, session.enter s.id state = .ok next ∧ session.Enters first state next := by
  have hid : first.id = s.id := Story.id_of_section? h
  refine ⟨_, enter_found h, ⟨rfl, rfl⟩, by rw [hid], by rw [hid], fun hdepth => ?_⟩
  obtain ⟨depth, hdepth⟩ := Nat.exists_eq_add_one.2 hdepth
  rw [Story.resolveNext, hdepth]
  exact origin_follow h

/-- A start drops every `#` before the name. -/
lemma start_eq {id : String} :
    session.start (some ("#" ++ id)) =
      session.enter (.ofList (id.toList.dropWhile (· = '#'))) .empty := by
  have hid : ("#" ++ id).toList.dropWhile (· = '#') = id.toList.dropWhile (· = '#') := by
    rw [String.toList_append]
    rfl
  rw [← hid]
  rfl

/-- A start leads into a section exactly if its name does not start with `#`. -/
lemma start_enters_iff (h : session.story.section? s.id = some first) :
    (∃ next, session.start (some ("#" ++ s.id)) = .ok next ∧ session.Enters first .empty next) ↔
      s.id.toList.head? ≠ some '#' := by
  have hid : first.id = s.id := Story.id_of_section? h
  rw [start_eq]
  constructor
  · rintro ⟨next, henter, entered⟩ hhead
    -- the name that is entered is shorter than that of the section
    obtain ⟨-, hnext⟩ := enter_cases henter
    have hbookmark := entered.bookmark
    rw [hnext, hid, Option.some.injEq, Bookmark.mk.injEq] at hbookmark
    obtain ⟨cs, hcs⟩ := List.head?_eq_some_iff.1 hhead
    have hdropped := congrArg (fun id => id.toList.length) hbookmark.1
    simp only [String.toList_ofList, hcs] at hdropped
    have hle := (List.dropWhile_sublist (p := (· = '#')) (l := cs)).length_le
    rw [List.dropWhile_cons_of_pos (by decide)] at hdropped
    rw [hdropped, List.length_cons] at hle
    exact Nat.not_succ_le_self _ hle
  · intro hhead
    have hkept : s.id.toList.dropWhile (· = '#') = s.id.toList := by
      cases hcs : s.id.toList with
      | nil => rfl
      | cons c cs =>
        rw [hcs] at hhead
        exact List.dropWhile_cons_of_neg (by simpa using hhead)
    rw [hkept, String.ofList_toList]
    exact exists_enters h

/-- A link leads into a section. -/
lemma choose_enters (h : session.story.section? s.id = some first) {before part after}
    (hparts : session.screen.parts = before ++ part :: after)
    (htarget : part.target? = some ("#" ++ s.id)) :
    ∃ next, session.choose (choicesOf before).length = .ok next ∧
      session.Enters first session.screen.state next := by
  have hname : part.linkTarget? = some s.id := by
    have htext : ("#" ++ s.id).toList = '#' :: s.id.toList := by
      rw [String.toList_append]
      rfl
    rw [Part.linkTarget?_eq_map, htarget, Option.map_some, Part.targetName, htext]
    exact congrArg some String.ofList_toList
  rw [Part.linkTarget?_eq, Option.map_eq_some_iff] at hname
  obtain ⟨choice, hchoice, hid⟩ := hname
  have hat : session.choices[(choicesOf before).length]? = some choice := by
    have hchoices : session.choices = choicesOf before ++ choice :: choicesOf after := by
      rw [choices, Screen.choices, hparts, choicesOf, List.filterMap_append,
        List.filterMap_cons_some hchoice]
      rfl
    rw [hchoices, List.getElem?_append_right (Nat.le_refl _), Nat.sub_self]
    rfl
  rw [choose, hat]
  simp only [hid]
  exact exists_enters h

/-- The text of a bookmark leads into a section exactly if the bookmark is read. -/
lemma resumed_enters_iff (h : story.section? s.id = some first) {config g} :
    (∃ b next, Bookmark.read (Bookmark.text ⟨s.id, state⟩) = .ok b ∧
      ofBookmark story config g b = .ok next ∧
        (fresh story config g).Enters first b.state next) ↔
      (s.id ≠ "" ∧ '?' ∉ s.id.toList) ∧ ∃ state', State.read state.text = .ok state' := by
  constructor
  · rintro ⟨b, next, hread, -, -⟩
    obtain ⟨hid, -, hstate⟩ := Bookmark.read_text_eq_ok_iff.1 hread
    exact ⟨hid, _, hstate⟩
  · rintro ⟨hid, state', hstate⟩
    have hread : Bookmark.read (Bookmark.text ⟨s.id, state⟩) = .ok ⟨s.id, state'⟩ :=
      Bookmark.read_text_eq_ok_iff.2 ⟨hid, rfl, hstate⟩
    obtain ⟨next, henter, entered⟩ := @exists_enters (fresh story config g) state' s first h
    exact ⟨_, next, hread, henter, entered⟩

/--
A link to a section, with a `#` before its name, leads into the first section of that name, on any
screen. A start with the same text does so exactly if the name does not start with another `#`, and
the text of a bookmark exactly if there is a name, the name has no question mark, and the document
of the state is read. A name that is made from a heading with some text in it is good for all ways.
-/
theorem ways_in (story : Story) (s : Section) (hs : s ∈ story.sections) :
    ∃ first, story.section? s.id = some first ∧ first.id = s.id ∧
      (∀ session : Session, session.story = story →
        ((∃ next, session.start (some ("#" ++ s.id)) = .ok next ∧
            session.Enters first .empty next) ↔ s.id.toList.head? ≠ some '#') ∧
        ∀ before part after, session.screen.parts = before ++ part :: after →
          part.target? = some ("#" ++ s.id) →
            ∃ next, session.choose (choicesOf before).length = .ok next ∧
              session.Enters first session.screen.state next) ∧
      (∀ (state : State) (config : Config) (g : Generator),
        (∃ b next, Bookmark.read (Bookmark.text ⟨s.id, state⟩) = .ok b ∧
          ofBookmark story config g b = .ok next ∧
            (fresh story config g).Enters first b.state next) ↔
          (s.id ≠ "" ∧ '?' ∉ s.id.toList) ∧ ∃ state', State.read state.text = .ok state') ∧
      ∀ heading : String, heading ≠ "" → s.id = Text.slugify heading →
        s.id.toList.head? ≠ some '#' ∧ s.id ≠ "" ∧ '?' ∉ s.id.toList := by
  obtain ⟨first, hfirst⟩ : ∃ first, story.section? s.id = some first :=
    Option.isSome_iff_exists.1 (List.find?_isSome.2 ⟨s, hs, decide_eq_true rfl⟩)
  refine ⟨first, hfirst, Story.id_of_section? hfirst, ?_, ?_, ?_⟩
  · rintro session rfl
    exact ⟨start_enters_iff hfirst, fun before part after => choose_enters hfirst⟩
  · intro state config g
    exact resumed_enters_iff hfirst
  · intro heading hheading hid
    obtain ⟨hhash, hmark⟩ := @Text.not_mem_slugify heading
    rw [hid]
    exact ⟨fun h => hhash (List.mem_of_head? h), Text.slugify_ne hheading, hmark⟩

/-- A hall with a way to a vault, another name that no slug is, and a heading without a text. -/
def hallAndVault : List Char :=
  "### Hall\n\n[A](##vault)\n\n### Vault <!--- ##vault -->\n\n### Who <!--- #who? -->\n\n###".toList

/-- The story of the hall and the vault. -/
def hallAndVaultStory : Story :=
  (Markup.assemble .chapter (Markup.lexemesOf hallAndVault)).story

/-- The lexemes of the hall and the vault. -/
lemma lexemesOf_hallAndVault :
    Markup.lexemesOf hallAndVault =
      [⟨.heading 3 "Hall".toList none, ⟨0, 9⟩, false, false⟩,
        ⟨.link "A".toList "##vault".toList, ⟨10, 22⟩, false, false⟩,
        ⟨.break, ⟨10, 23⟩, false, false⟩,
        ⟨.heading 3 "Vault".toList (some "#vault".toList), ⟨24, 52⟩, false, false⟩,
        ⟨.heading 3 "Who".toList (some "who?".toList), ⟨53, 77⟩, false, false⟩,
        ⟨.heading 3 [] none, ⟨78, 81⟩, false, false⟩] := by
  decide +kernel

/-- The names of the sections of the hall and the vault. -/
lemma ids_hallAndVault :
    hallAndVaultStory.sections.map Section.id = ["hall", "#vault", "who?", ""] := by
  rw [hallAndVaultStory, lexemesOf_hallAndVault]
  decide +kernel

/-- The hall can be entered by its name and by its bookmark. -/
theorem ways_in_hall :
    ∃ hall, hallAndVaultStory.section? "hall" = some hall ∧
      (∃ next, (fresh hallAndVaultStory {} (.ofSeed 1)).start (some ("#" ++ "hall")) = .ok next ∧
        (fresh hallAndVaultStory {} (.ofSeed 1)).Enters hall .empty next) ∧
      ∃ b next, Bookmark.read (Bookmark.text ⟨"hall", .empty⟩) = .ok b ∧
        ofBookmark hallAndVaultStory {} (.ofSeed 1) b = .ok next ∧
          (fresh hallAndVaultStory {} (.ofSeed 1)).Enters hall b.state next := by
  have hmem : "hall" ∈ hallAndVaultStory.sections.map Section.id := by
    rw [ids_hallAndVault]
    exact List.mem_cons_self
  obtain ⟨s, hs, hid⟩ := List.mem_map.1 hmem
  obtain ⟨hall, hfound, -, hways, hbookmark, hslug⟩ := ways_in hallAndVaultStory s hs
  rw [hid] at hfound hways hbookmark hslug
  obtain ⟨hhash, hgood⟩ := hslug "Hall" (by decide) (by decide +kernel)
  refine ⟨hall, hfound, ?_, ?_⟩
  · exact (hways (fresh hallAndVaultStory {} (.ofSeed 1)) story_fresh).1.2 hhash
  · obtain ⟨state', hread, -⟩ : ∃ state', State.read State.empty.text = .ok state' ∧ _ :=
      State.read_text (fun _ _ h => absurd h List.not_mem_nil) (by decide)
    exact (hbookmark .empty {} (.ofSeed 1)).2 ⟨hgood, state', hread⟩

/-- A start with the name of the vault looks for a section of another name, and no bookmark of the
two sections after it is read. -/
theorem hallAndVault_missed :
    hallAndVaultStory.sections.map Section.id = ["hall", "#vault", "who?", ""] ∧
      (fresh hallAndVaultStory {} (.ofSeed 1)).start (some ("#" ++ "#vault")) =
        .error (.sectionNotFound "vault") ∧
      ∀ state b, Bookmark.read (Bookmark.text ⟨"who?", state⟩) ≠ .ok b ∧
        Bookmark.read (Bookmark.text ⟨"", state⟩) ≠ .ok b := by
  refine ⟨ids_hallAndVault, ?_, fun state b => ⟨fun h => ?_, fun h => ?_⟩⟩
  · have hvault : "vault" ∉ hallAndVaultStory.sections.map Section.id := by
      rw [ids_hallAndVault]
      decide
    have hdropped : String.ofList ("#vault".toList.dropWhile (· = '#')) = "vault" := by decide
    rw [start_eq, hdropped]
    refine enter_missing (List.find?_eq_none.2 fun s hs hid => hvault ?_)
    exact List.mem_map.2 ⟨s, hs, of_decide_eq_true hid⟩
  · have hmark : '?' ∈ "who?".toList := by decide
    exact (Bookmark.read_text_eq_ok_iff.1 h).1.2 hmark
  · exact (Bookmark.read_text_eq_ok_iff.1 h).1.1 rfl

end Session

end Gamebook
