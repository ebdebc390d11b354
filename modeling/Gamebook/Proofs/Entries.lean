import Gamebook.Markup.Draft
import Mathlib.Tactic.Lemma

/-!
# Entries

What lexemes add to a story, without the making of the story: a lexeme adds at most one entry, which
depends on the token before it, on the lexemes after it and on whether a condition is open. Text
that goes on over several lexemes is one entry, at the first of them; a comment right after an image
is none, as it describes the image. Main definitions: `Entry`, `entriesOf`, and how entries are
shared out: `sectionsOf`, `descriptionOf`.
-/

namespace Gamebook.Markup

/-- What a lexeme adds to a story. -/
inductive Entry where
  /-- The title. -/
  | title
  /-- The start of a section, with the header that it shows, if it shows one. -/
  | start (made : Section)
  /-- A piece of content. -/
  | part (part : Part)
  /-- Code that is kept because it has no meaning where it stands. -/
  | kept (code : List Char) (span : Span)
  /-- The start of a condition. -/
  | opening (condition : Condition)
  /-- The start of the second branch of the open condition. -/
  | otherwise
  /-- The end of the open condition. -/
  | closing

/-- Whether a token is part of a paragraph. -/
def Token.isRunning : Token → Bool
  | text _ => true
  | softBreak => true
  | _ => false

def Token.isText : Token → Bool
  | text _ => true
  | _ => false

def Token.isImage : Token → Bool
  | image .. => true
  | _ => false

section Runs

/-- The lexemes up to the first one that is no part of a paragraph. -/
def runOf (lexemes : List Lexeme) : List Lexeme :=
  lexemes.takeWhile (·.token.isRunning)

/-- The text of a paragraph. The end of a line counts if text comes right after it. -/
def runText : List Lexeme → List Char
  | [] => []
  | l :: run =>
    match l.token with
    | .text text => text ++ runText run
    | .softBreak => if startsWithText run then '\n' :: runText run else runText run
    | _ => runText run

/-- A paragraph is set apart as its first text is. -/
def runQuoting (run : List Lexeme) : Option Quoting :=
  (run.find? (·.token.isText)).bind quotingOf

/-- The paragraph of a text; there is none without a character that is no blank. -/
def paragraph? (text : List Char) (quoting : Option Quoting) : Option Part :=
  match Text.trim text with
  | [] => none
  | text => some (.paragraph (.ofList text) quoting)

lemma paragraph?_eq_some {text quoting part} (h : paragraph? text quoting = some part) :
    Text.trim text ≠ [] ∧ part = .paragraph (.ofList (Text.trim text)) quoting := by
  rw [paragraph?] at h
  split at h
  · cases h
  · next hne =>
    cases h
    exact ⟨hne, rfl⟩

/-- The paragraph that lexemes make up. -/
def paragraphOf? (run : List Lexeme) : Option Part :=
  paragraph? (runText run) (runQuoting run)

end Runs

/-- The comment that some lexemes start with. -/
def commentAhead? : List Lexeme → Option (List Char)
  | ⟨.comment text, _, _, _⟩ :: _ => some text
  | _ => none

/-- An image with the comment that describes it. -/
def imageOf (alt url : List Char) (description : Option (List Char)) : Image where
  text := .ofList alt
  url := if url.isEmpty then none else some (.ofList url)
  description := description.map .ofList

/-- The condition that a marker with an expression starts; one without an expression is faulty. -/
def openingOf (code : List Char) : (expression : List Char) → Condition
  | [] => ⟨"", none, some (.ofList code), some conditionError⟩
  | expression => ⟨.ofList expression, none, none, none⟩

/-- The section that a heading starts, with the header that it shows, if it shows one. -/
def startOf (dialect : Dialect) (level : Nat) (text : String) (anchor : Option (List Char)) :
    Section :=
  { Draft.sectionOf text anchor with
    parts := if level = 2 ∧ dialect = .chapter then [.header text] else [] }

/-- What a heading adds. -/
def headingEntry (dialect : Dialect) (level : Nat) (text : String) (anchor : Option (List Char)) :
    Entry :=
  if level = 1 then .title
  else if dialect.startsSection level then .start (startOf dialect level text anchor)
  else .part (.header text)

lemma parts_startOf {dialect level text anchor} :
    (startOf dialect level text anchor).parts = [] ∨
      (startOf dialect level text anchor).parts = [.header text] := by
  rw [startOf]
  split
  · exact .inr rfl
  · exact .inl rfl

lemma mem_parts_startOf {dialect level text anchor part}
    (h : part ∈ (startOf dialect level text anchor).parts) : part = .header text := by
  obtain e | e := @parts_startOf dialect level text anchor
  · rw [e] at h
    cases h
  · rw [e] at h
    exact List.mem_singleton.1 h

lemma filterMap_startOf {α : Type} {f : Part → Option α} {dialect level text anchor}
    (h : f (.header text) = none) :
    (startOf dialect level text anchor).parts.filterMap f = [] := by
  refine List.filterMap_eq_nil_iff.2 fun part hp => ?_
  rw [mem_parts_startOf hp, h]

lemma heading_startOf {dialect level text anchor} :
    (startOf dialect level text anchor).heading = text := by
  unfold startOf Draft.sectionOf
  split
  · rfl
  · rfl

/-- What code adds. Without an open condition, signs that belong to one are kept. -/
def codeEntry (isOpen : Bool) (code : List Char) (span : Span) : Entry :=
  match Marker.ofCode code with
  | .navigation text target => .part (.navigation (.ofList text) (.ofList target))
  | .opening expression => .opening (openingOf code expression)
  | .otherwise => if isOpen then .otherwise else .kept code span
  | .closing => if isOpen then .closing else .kept code span
  | .plain => .kept code span

/-- What a lexeme adds after a token and before other lexemes. -/
def entryOf? (dialect : Dialect) (before : Option Token) (isOpen : Bool) (l : Lexeme)
    (rest : List Lexeme) : Option Entry :=
  match l.token with
  | .heading level text anchor => some (headingEntry dialect level (.ofList text) anchor)
  | .text _ =>
    if before.any Token.isRunning then none else (paragraphOf? (runOf (l :: rest))).map .part
  | .softBreak =>
    if before.any Token.isRunning then none else (paragraphOf? (runOf (l :: rest))).map .part
  | .break => none
  | .image alt url => some (.part (.image (imageOf alt url (commentAhead? rest))))
  | .link text href => some (.part (.link ⟨.ofList text, .ofList href, none⟩))
  | .code code => some (codeEntry isOpen code l.span)
  | .fence _ content => some (.part (.action (actionOf content)))
  | .comment text =>
    if before.any Token.isImage then none else some (.part (.comment (.ofList text)))

/-- Whether there is code that can close a condition before the next condition starts. -/
def canClose (rest : List Lexeme) : Bool :=
  (nextCode? rest).any fun code => !startsCondition code

/-- Whether a condition is open after code. -/
def codeLeavesOpen (isOpen : Bool) (code : List Char) (rest : List Lexeme) : Bool :=
  match Marker.ofCode code with
  | .navigation .. => isOpen
  | .opening _ => canClose rest
  | .closing => false
  | .otherwise => isOpen && canClose rest
  | .plain => isOpen && canClose rest

/-- Whether a condition is open after a lexeme. -/
def leavesOpen (isOpen : Bool) (l : Lexeme) (rest : List Lexeme) : Bool :=
  match l.token with
  | .heading .. => false
  | .code code => codeLeavesOpen isOpen code rest
  | _ => isOpen

/-- What lexemes add after a token. -/
def entriesFrom (dialect : Dialect) : (before : Option Token) → (isOpen : Bool) → List Lexeme →
    List Entry
  | _, _, [] => []
  | before, isOpen, l :: rest =>
    (entryOf? dialect before isOpen l rest).toList ++
      entriesFrom dialect (some l.token) (leavesOpen isOpen l rest) rest

/-- What lexemes add to a story. -/
def entriesOf (dialect : Dialect) (lexemes : List Lexeme) : List Entry :=
  entriesFrom dialect none false lexemes

namespace Entry

/-- The content of an entry, without what comes into the branches of a condition. -/
def contents : Entry → List Part
  | title => []
  | start made => made.parts
  | part p => [p]
  | kept code _ => [keptCode code]
  | opening condition => [.condition condition [] []]
  | otherwise => []
  | closing => []

/-- The piece of content that an entry is. -/
def content? : Entry → Option Part
  | part p => some p
  | kept code _ => some (keptCode code)
  | _ => none

lemma contents_of_content? {e : Entry} {part} (h : e.content? = some part) :
    e.contents = [part] := by
  cases e with
  | part p =>
    cases h
    rfl
  | kept code span =>
    cases h
    rfl
  | _ => cases h

lemma filterMap_contents {α : Type} {f : Part → Option α} {e : Entry} {part}
    (h : e.contents = [part]) : e.contents.filterMap f = (f part).toList := by
  rw [h, List.filterMap_cons, List.filterMap_nil]
  cases f part <;> rfl

/-- Whether the content after an entry goes elsewhere. -/
def isTurn : Entry → Bool
  | title => true
  | start _ => true
  | _ => false

end Entry

section Sharing

/-- The content up to the next title or section. -/
def contentsAhead (entries : List Entry) : List Part :=
  (entries.takeWhile (!·.isTurn)).flatMap Entry.contents

/-- The sections, each with the content from its start up to the next title or section. -/
def sectionsOf : List Entry → List Section
  | [] => []
  | .start made :: entries =>
    { made with parts := made.parts ++ contentsAhead entries } :: sectionsOf entries
  | _ :: entries => sectionsOf entries

/-- The content after titles, each time up to the next title or section. -/
def titledContents : List Entry → List Part
  | [] => []
  | .title :: entries => contentsAhead entries ++ titledContents entries
  | _ :: entries => titledContents entries

/-- The content before any title or section, and after titles. -/
def descriptionOf (entries : List Entry) : List Part :=
  contentsAhead entries ++ titledContents entries

variable {es : List Entry} {p : Part} {s : Section}

lemma contentsAhead_turn {e} (h : e.isTurn = true) : contentsAhead (e :: es) = [] := by
  rw [contentsAhead, List.takeWhile_cons_of_neg (by rw [h]; exact Bool.false_ne_true),
    List.flatMap_nil]

lemma contentsAhead_cons {e} (h : e.isTurn = false) :
    contentsAhead (e :: es) = e.contents ++ contentsAhead es := by
  rw [contentsAhead, List.takeWhile_cons_of_pos (by rw [h]; rfl), List.flatMap_cons,
    ← contentsAhead]

/-- The content of entries is shared out among the description and the sections. -/
lemma perm_contents :
    (descriptionOf es ++ (sectionsOf es).flatMap Section.parts).Perm
      (es.flatMap Entry.contents) := by
  induction es with
  | nil => exact .refl _
  | cons e es ih =>
    cases e with
    | title => exact ih
    | start made =>
      have before : contentsAhead (.start made :: es) = [] := contentsAhead_turn rfl
      have swapped := List.perm_append_comm_assoc (titledContents es) made.parts
        (contentsAhead es ++ (sectionsOf es).flatMap Section.parts)
      have ahead := List.perm_append_comm_assoc (titledContents es) (contentsAhead es)
        ((sectionsOf es).flatMap Section.parts)
      simp only [descriptionOf, before, titledContents, sectionsOf,
        List.flatMap_cons, List.nil_append, List.append_assoc] at ih ⊢
      exact swapped.trans ((ahead.trans ih).append_left _)
    | _ =>
      rw [descriptionOf, contentsAhead_cons rfl, List.append_assoc, List.append_assoc,
        List.flatMap_cons, ← List.append_assoc (contentsAhead es)]
      exact ih.append_left _

lemma mem_contentsAhead (h : p ∈ contentsAhead es) :
    ∃ e ∈ es, e.isTurn = false ∧ p ∈ e.contents := by
  obtain ⟨e, he, hp⟩ := List.mem_flatMap.1 h
  refine ⟨e, (List.takeWhile_prefix _).subset he, ?_, hp⟩
  have ahead := List.all_eq_true.1 List.all_takeWhile e he
  rwa [Bool.not_eq_true'] at ahead

lemma mem_titledContents (h : p ∈ titledContents es) :
    ∃ e ∈ es, e.isTurn = false ∧ p ∈ e.contents := by
  induction es with
  | nil => cases h
  | cons e es ih =>
    have tail (h : ∃ e ∈ es, e.isTurn = false ∧ p ∈ e.contents) :
        ∃ e' ∈ e :: es, e'.isTurn = false ∧ p ∈ e'.contents :=
      h.imp fun _ he => he.imp_left (List.mem_cons_of_mem e)
    cases e with
    | title => exact tail ((List.mem_append.1 h).elim mem_contentsAhead ih)
    | _ => exact tail (ih h)

/-- The content of the description is the content of entries. -/
lemma mem_descriptionOf (h : p ∈ descriptionOf es) :
    ∃ e ∈ es, e.isTurn = false ∧ p ∈ e.contents :=
  (List.mem_append.1 h).elim mem_contentsAhead mem_titledContents

/-- A section is started by an entry, and what comes after that is the content of entries. -/
lemma mem_sectionsOf (h : s ∈ sectionsOf es) :
    ∃ made parts, .start made ∈ es ∧ s = { made with parts := made.parts ++ parts } ∧
      ∀ p ∈ parts, ∃ e ∈ es, e.isTurn = false ∧ p ∈ e.contents := by
  induction es with
  | nil => cases h
  | cons e es ih =>
    have tail (h : s ∈ sectionsOf es) :
        ∃ made parts, .start made ∈ e :: es ∧ s = { made with parts := made.parts ++ parts } ∧
          ∀ p ∈ parts, ∃ e' ∈ e :: es, e'.isTurn = false ∧ p ∈ e'.contents := by
      obtain ⟨made, parts, hmade, rfl, hparts⟩ := ih h
      refine ⟨made, parts, List.mem_cons_of_mem _ hmade, rfl, fun p hp => ?_⟩
      exact (hparts p hp).imp fun _ he => he.imp_left (List.mem_cons_of_mem e)
    cases e with
    | start made =>
      cases List.mem_cons.1 h with
      | inl h =>
        refine ⟨made, contentsAhead es, List.mem_cons_self, h, fun p hp => ?_⟩
        exact (mem_contentsAhead hp).imp fun _ he => he.imp_left (List.mem_cons_of_mem _)
      | inr h => exact tail h
    | _ => exact tail h

lemma mem_sectionsOf_start {made} (h : .start made ∈ es) :
    ∃ parts, { made with parts := made.parts ++ parts } ∈ sectionsOf es := by
  induction es with
  | nil => cases h
  | cons e es ih =>
    cases h with
    | head => exact ⟨contentsAhead es, List.mem_cons_self⟩
    | tail _ h =>
      obtain ⟨parts, hparts⟩ := ih h
      refine ⟨parts, ?_⟩
      cases e with
      | start made' => exact List.mem_cons_of_mem _ hparts
      | _ => exact hparts

end Sharing

/-- The entries that a lexeme may add, whatever stands around it. -/
inductive Entry.Of (dialect : Dialect) (l : Lexeme) : Entry → Prop where
  | title : Of dialect l .title
  | start {level text anchor} :
    l.token = .heading level text anchor →
    Of dialect l (.start (startOf dialect level (.ofList text) anchor))
  | header {level text anchor} :
    l.token = .heading level text anchor → level ≠ 1 → dialect.startsSection level = false →
    Of dialect l (.part (.header (.ofList text)))
  | paragraph {text quoting part} :
    paragraph? text quoting = some part → Of dialect l (.part part)
  | image {i} : Of dialect l (.part (.image i))
  | link {text href} :
    l.token = .link text href →
    Of dialect l (.part (.link ⟨.ofList text, .ofList href, none⟩))
  | navigation {code text target} :
    l.token = .code code → Marker.ofCode code = .navigation text target →
    Of dialect l (.part (.navigation (.ofList text) (.ofList target)))
  | opening {code expression} :
    l.token = .code code → Marker.ofCode code = .opening expression →
    Of dialect l (.opening (openingOf code expression))
  | otherwise {code} :
    l.token = .code code → Marker.ofCode code = .otherwise → Of dialect l .otherwise
  | closing {code} :
    l.token = .code code → Marker.ofCode code = .closing → Of dialect l .closing
  | kept {code} :
    l.token = .code code →
    Marker.ofCode code = .otherwise ∨ Marker.ofCode code = .closing ∨
      Marker.ofCode code = .plain →
    Of dialect l (.kept code l.span)
  | action {content} : Of dialect l (.part (.action (actionOf content)))
  | comment {text} : Of dialect l (.part (.comment text))

section Sources

variable {dialect : Dialect} {before : Option Token} {isOpen : Bool} {l : Lexeme}
  {rest lexemes : List Lexeme} {e : Entry}

lemma Entry.of_headingEntry {level text anchor} (h : l.token = .heading level text anchor) :
    Entry.Of dialect l (headingEntry dialect level (.ofList text) anchor) := by
  rw [headingEntry]
  by_cases title : level = 1
  · rw [if_pos title]
    exact .title
  · rw [if_neg title]
    cases starts : dialect.startsSection level with
    | true => exact .start h
    | false => exact .header h title starts

lemma Entry.of_codeEntry {code} (h : l.token = .code code) :
    Entry.Of dialect l (codeEntry isOpen code l.span) := by
  rw [codeEntry]
  cases hm : Marker.ofCode code with
  | navigation text target => exact .navigation h hm
  | opening expression => exact .opening h hm
  | otherwise =>
    cases isOpen with
    | true => exact .otherwise h hm
    | false => exact .kept h (.inl hm)
  | closing =>
    cases isOpen with
    | true => exact .closing h hm
    | false => exact .kept h (.inr (.inl hm))
  | plain => exact .kept h (.inr (.inr hm))

lemma Entry.of_paragraphOf? {run : List Lexeme}
    (h : e ∈ (if before.any Token.isRunning then none else (paragraphOf? run).map .part)) :
    Entry.Of dialect l e := by
  split at h
  · cases h
  · obtain ⟨part, hp, rfl⟩ := Option.map_eq_some_iff.1 h
    exact .paragraph hp

lemma Entry.of_entryOf? (h : entryOf? dialect before isOpen l rest = some e) :
    Entry.Of dialect l e := by
  cases ht : l.token with
  | heading level text anchor =>
    simp only [entryOf?, ht] at h
    cases h
    exact of_headingEntry ht
  | text text =>
    simp only [entryOf?, ht] at h
    exact of_paragraphOf? h
  | softBreak =>
    simp only [entryOf?, ht] at h
    exact of_paragraphOf? h
  | «break» =>
    simp only [entryOf?, ht] at h
    cases h
  | image alt url =>
    simp only [entryOf?, ht] at h
    cases h
    exact .image
  | link text href =>
    simp only [entryOf?, ht] at h
    cases h
    exact .link ht
  | code code =>
    simp only [entryOf?, ht] at h
    cases h
    exact of_codeEntry ht
  | fence info content =>
    simp only [entryOf?, ht] at h
    cases h
    exact .action
  | comment text =>
    simp only [entryOf?, ht] at h
    split at h
    · cases h
    · cases h
      exact .comment

/-- Every entry comes from a lexeme. -/
lemma exists_of_mem_entriesFrom (h : e ∈ entriesFrom dialect before isOpen lexemes) :
    ∃ l ∈ lexemes, Entry.Of dialect l e := by
  induction lexemes generalizing before isOpen with
  | nil => cases h
  | cons l rest ih =>
    cases List.mem_append.1 h with
    | inl h => exact ⟨l, List.mem_cons_self, Entry.of_entryOf? (Option.mem_toList.1 h)⟩
    | inr h => exact (ih h).imp fun _ hl => hl.imp_left (List.mem_cons_of_mem l)

end Sources

end Gamebook.Markup
