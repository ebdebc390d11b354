import Gamebook.Proofs.StateText
import Gamebook.Story.Document

/-!
# Stories read back

The document of a story is read as the same story: the same texts everywhere, with what is absent
still absent, the same parts in the same branches at any depth, and states with the same keys in the
same order. Main definitions: `Story.Alike`, `Story.ReadsBack`, `Json.Rereads`. Main statement:
`Story.read_document`.
-/

namespace Gamebook

/-- Actions with alike states that are otherwise the same. -/
structure Action.Alike (a b : Action) : Prop where
  /-- The keys. -/
  state : a.state.Alike b.state
  /-- How the action went. -/
  audit : a.audit = b.audit
  /-- The block as it is written. -/
  source : a.source = b.source
  /-- What is wrong with the block. -/
  error : a.error = b.error

/-- Parts that are the same but for alike states. -/
inductive Part.Alike : Part → Part → Prop where
  | same {part} : Alike part part
  | action {a b} : a.Alike b → Alike (.action a) (.action b)
  | condition {c whenTrue whenTrue' whenFalse whenFalse'} :
    List.Forall₂ Alike whenTrue whenTrue' → List.Forall₂ Alike whenFalse whenFalse' →
    Alike (.condition c whenTrue whenFalse) (.condition c whenTrue' whenFalse')

/-- Sections that are the same but for alike states. -/
structure Section.Alike (s t : Section) : Prop where
  /-- The names. -/
  id : s.id = t.id
  /-- The headings. -/
  heading : s.heading = t.heading
  /-- The content. -/
  parts : List.Forall₂ Part.Alike s.parts t.parts

/-- Stories that are the same but for alike states. -/
structure Story.Alike (story other : Story) : Prop where
  /-- The titles. -/
  title : story.title = other.title
  /-- The descriptions. -/
  description : List.Forall₂ Part.Alike story.description other.description
  /-- The settings. -/
  settings : story.settings.Alike other.settings
  /-- The sections. -/
  sections : List.Forall₂ Section.Alike story.sections other.sections
  /-- The illustrations. -/
  images : story.images = other.images

mutual

/-- Whether the numbers of all actions in a part read back. -/
def Part.ReadsBack : Part → Prop
  | .action a => a.state.tree.ReadsBack
  | .condition _ whenTrue whenFalse => ReadsBackAll whenTrue ∧ ReadsBackAll whenFalse
  | _ => True

/-- Whether the numbers of all actions in some parts read back. -/
def Part.ReadsBackAll : List Part → Prop
  | [] => True
  | part :: parts => part.ReadsBack ∧ ReadsBackAll parts

end

/-- Whether all numbers of a story read back. -/
structure Story.ReadsBack (story : Story) : Prop where
  /-- The numbers of the description. -/
  description : Part.ReadsBackAll story.description
  /-- The numbers of the settings. -/
  settings : story.settings.state.tree.ReadsBack
  /-- The numbers of the sections. -/
  sections : ∀ s ∈ story.sections, Part.ReadsBackAll s.parts

namespace Json

/-- What a value reads as, which is not torn. -/
structure Rereads (j k : Json) : Prop where
  /-- The value that its text reads as. -/
  value : j.reread? = some k
  /-- That value is not torn. -/
  whole : k.fault? = none

/-- What items read as, which are not torn. -/
structure ItemsReread (items others : List Json) : Prop where
  /-- The items that their texts read as. -/
  value : rereadItems? items = some others
  /-- Those are not torn. -/
  whole : itemsFault? others = none

/-- What fields read as, which are not torn. -/
structure FieldsReread (fields others : List (String × Json)) : Prop where
  /-- The fields that their texts read as. -/
  value : rereadFields? fields = some others
  /-- Those are not torn. -/
  whole : fieldsFault? others = none

variable {j k : Json} {items items' : List Json} {fields fields' : List (String × Json)}

lemma Rereads.str {s : String} : Rereads (.str s) (.str s) :=
  ⟨rfl, rfl⟩

lemma Rereads.arr (h : ItemsReread items items') : Rereads (.arr items) (.arr items') :=
  ⟨by rw [reread?, h.value]; rfl, h.whole⟩

lemma Rereads.obj (h : FieldsReread fields fields') : Rereads (.obj fields) (.obj fields') :=
  ⟨by rw [reread?, h.value]; rfl, h.whole⟩

lemma ItemsReread.nil : ItemsReread [] [] :=
  ⟨rfl, rfl⟩

lemma ItemsReread.cons (h : Rereads j k) (hs : ItemsReread items items') :
    ItemsReread (j :: items) (k :: items') :=
  ⟨by rw [rereadItems?, h.value, hs.value]; rfl, by rw [itemsFault?, h.whole, hs.whole]; rfl⟩

lemma FieldsReread.nil : FieldsReread [] [] :=
  ⟨rfl, rfl⟩

lemma FieldsReread.cons {name} (h : Rereads j k) (hs : FieldsReread fields fields') :
    FieldsReread ((name, j) :: fields) ((name, k) :: fields') :=
  ⟨by rw [rereadFields?, h.value, hs.value]; rfl, by rw [fieldsFault?, h.whole, hs.whole]; rfl⟩

/-- Fields that hold texts are read as they are. -/
lemma FieldsReread.texts (h : ∀ field ∈ fields, ∃ s, field.2 = .str s) :
    FieldsReread fields fields := by
  induction fields with
  | nil => exact .nil
  | cons field fields ih =>
    obtain ⟨⟨s, hs⟩, hfields⟩ := List.forall_mem_cons.1 h
    obtain ⟨name, j⟩ := field
    subst hs
    exact .cons .str (ih hfields)

/-- What fields read as has the same names. -/
lemma FieldsReread.names (h : FieldsReread fields fields') :
    fields'.map Prod.fst = fields.map Prod.fst := by
  obtain ⟨h, -⟩ := h
  induction fields generalizing fields' with
  | nil =>
    cases h
    rfl
  | cons field fields ih =>
    obtain ⟨name, j⟩ := field
    obtain ⟨k, -, h⟩ := Option.bind_eq_some_iff.1 h
    obtain ⟨others, hothers, h⟩ := Option.bind_eq_some_iff.1 h
    cases h
    exact congrArg (name :: ·) (ih hothers)

end Json

/-- Whether a field of a part holds a text and does not name the kind. -/
def TextField (field : String × Json) : Prop :=
  field.1 ≠ "type" ∧ ∃ s, field.2 = .str s

/-- Optional fields hold texts. -/
lemma textField_texts {name o fields} (hn : name ≠ "type")
    (hf : ∀ field ∈ fields, TextField field) :
    ∀ field ∈ fields ++ textField name o, TextField field := by
  refine List.forall_mem_append.2 ⟨hf, ?_⟩
  cases o with
  | none => exact fun _ h => absurd h List.not_mem_nil
  | some s => exact List.forall_mem_singleton.2 ⟨hn, s, rfl⟩

/-- The optional fields of an action or a condition. -/
def noteFields (audit source error : Option String) : List (String × Json) :=
  [] ++ textField "text" audit ++ textField "markdown" source ++ textField "error" error

/-- The optional fields of an action or a condition hold texts. -/
lemma noteFields_texts {audit source error} :
    ∀ field ∈ noteFields audit source error, TextField field :=
  textField_texts (by decide) <| textField_texts (by decide) <| textField_texts (by decide)
    fun _ h => absurd h List.not_mem_nil

/-- The object of an action whose numbers read back is read as an alike action. -/
lemma Action.reread_toFields {a : Action} (hn : a.state.tree.ReadsBack) :
    ∃ fields b, Json.FieldsReread a.toFields fields ∧
      (∀ name, ofRecord ⟨fields, none, name⟩ = .ok b) ∧ a.Alike b := by
  obtain ⟨state, audit, source, error⟩ := a
  obtain ⟨inner, state', hread, hwhole, hstate, halike⟩ := State.reread_toJson hn
  refine ⟨_, ⟨state', audit, source, error⟩, .cons ⟨hread, hwhole⟩ (.texts fun field h =>
    (noteFields_texts field h).2), fun name => ?_, ⟨halike, rfl, rfl, rfl⟩⟩
  · -- the state is read first, whatever texts come after it
    have hstep : Slots.step {} "state" (.obj inner) = .ok { state := some state' } := by
      rw [Slots.step, Json.fill, hstate]
      rfl
    rw [ofRecord, Json.fillAll, hstep]
    cases audit <;> cases source <;> cases error <;> rfl

namespace Part

variable {nested : Bool} {kind : String} {fields : List (String × Json)}

/-- A kind is found in front when no other field has its name. -/
lemma findKind_of_notMem (hw : Json.fieldsFault? fields = none)
    (ht : "type" ∉ fields.map Prod.fst) :
    findKind nested (some kind) fields = .ok kind := by
  induction fields with
  | nil => rfl
  | cons field fields ih =>
    obtain ⟨name, j⟩ := field
    rw [List.map_cons, List.mem_cons, not_or] at ht
    rw [Json.fieldsFault?, Option.or_eq_none_iff] at hw
    rw [findKind, if_neg (Ne.symm ht.1), Json.whole, hw.1]
    exact ih hw.2 ht.2

/-- Fields that hold texts do not name the kind. -/
lemma notMem_type (h : ∀ field ∈ fields, TextField field) : "type" ∉ fields.map Prod.fst := by
  intro ht
  obtain ⟨field, hfield, hname⟩ := List.mem_map.1 ht
  exact (h field hfield).1 hname

/-- A field with another name does not name the kind. -/
lemma notMem_type_cons {name j} (hn : name ≠ "type") (h : "type" ∉ fields.map Prod.fst) :
    "type" ∉ ((name, j) :: fields).map Prod.fst := by
  rw [List.map_cons, List.mem_cons, not_or]
  exact ⟨hn.symm, h⟩

/-- The fields without the kind in front. -/
lemma filter_type (ht : "type" ∉ fields.map Prod.fst) :
    (("type", Json.str kind) :: fields).filter (·.1 ≠ "type") = fields := by
  rw [List.filter_cons_of_neg (by simp), List.filter_eq_self]
  intro field hfield
  refine decide_eq_true ?_
  rintro h
  exact ht (List.mem_map.2 ⟨field, hfield, h⟩)

/-- An object with a kind in front is read as a part of this kind. -/
lemma decode_fields (hk : kind ∈ kindNames) (hw : Json.fieldsFault? fields = none)
    (ht : "type" ∉ fields.map Prod.fst) :
    decode nested (.obj (("type", .str kind) :: fields)) =
      if kind = "condition" then (conditionFields {} fields).bind fun s => s.toPart none
      else plainOf kind fun _ name => .ok ⟨fields, none, name⟩ := by
  have hkind : findKind nested none (("type", .str kind) :: fields) = .ok kind := by
    rw [findKind, if_pos rfl, kindOf, if_pos hk]
    exact findKind_of_notMem hw ht
  rw [decode, hkind]
  simp only [bind, Except.bind, filter_type ht]
  by_cases hc : kind = "condition"
  · rw [if_pos hc, if_pos hc]
    rfl
  · rw [if_neg hc, if_neg hc]

/-- Whether items are read as parts, inside of another part or not. -/
def DecodeAll (items : List Json) (parts : List Part) : Prop :=
  List.Forall₂ (fun j part => ∀ nested, decode nested j = .ok part) items parts

/-- Items that are read as parts are read as the parts of a branch. -/
lemma DecodeAll.decodeItems {items parts} (h : DecodeAll items parts) :
    decodeItems items = .ok parts := by
  induction h with
  | nil => rfl
  | cons hj _ ih =>
    rw [Part.decodeItems, hj true]
    simp only [bind, Except.bind, ih]
    rfl

/-- The expression and the branches of a condition are read, whatever fields come after them. -/
lemma conditionFields_branches {expression items whenTrue items' whenFalse}
    (h : DecodeAll items whenTrue) (h' : DecodeAll items' whenFalse) :
    conditionFields {} (("condition", .str expression) :: ("true", .arr items) ::
        ("false", .arr items') :: fields) =
      conditionFields
        { expression := some expression, whenTrue := some whenTrue, whenFalse := some whenFalse }
        fields := by
  simp only [conditionFields, conditionField, h.decodeItems, h'.decodeItems]
  rfl

/-- What is known of a part that is read back. -/
structure Read (part : Part) (j : Json) (other : Part) : Prop where
  /-- The value that the text of the part reads as. -/
  value : Json.Rereads part.toJson j
  /-- The part that is read from this value, inside of another part or not. -/
  decode : ∀ nested, Part.decode nested j = .ok other
  /-- That part is alike. -/
  alike : part.Alike other

/-- The kind of a part is one of the kinds. -/
lemma kindName_mem {part : Part} : part.kindName ∈ kindNames := by
  cases part <;> simp [kindName, kindNames]

/-- A part of a kind that holds texts only is read as it is. -/
lemma Read.texts {part : Part}
    (hj : part.toJson = .obj (("type", .str part.kindName) :: fields))
    (hf : ∀ field ∈ fields, TextField field) (hc : part.kindName ≠ "condition")
    (h : plainOf part.kindName (fun _ name => .ok ⟨fields, none, name⟩) = .ok part) :
    part.Read part.toJson part := by
  have hfields := Json.FieldsReread.texts fun field hfield => (hf field hfield).2
  refine ⟨?_, fun nested => ?_, .same⟩
  · rw [hj]
    exact .obj (.cons .str hfields)
  · rw [hj, decode_fields kindName_mem hfields.whole (notMem_type hf), if_neg hc, h]

mutual

/-- A part whose numbers read back is read as an alike part. -/
lemma exists_read : ∀ {part : Part}, part.ReadsBack → ∃ j other, part.Read j other
  | header text, _ => ⟨_, _, .texts rfl (by simp [TextField]) (by simp [kindName]) rfl⟩
  | comment text, _ => ⟨_, _, .texts rfl (by simp [TextField]) (by simp [kindName]) rfl⟩
  | navigation text target, _ =>
    ⟨_, _, .texts rfl (by simp [TextField]) (by simp [kindName]) rfl⟩
  | link ⟨text, target, key⟩, _ => by
    refine ⟨_, _, .texts rfl (textField_texts (by decide) (by simp [TextField]))
      (by simp [kindName]) ?_⟩
    cases key <;> rfl
  | image ⟨text, url, description⟩, _ => by
    have hurl := @textField_texts "url" url [("text", .str text)] (by decide) (by simp [TextField])
    refine ⟨_, _, .texts rfl (textField_texts (by decide) hurl) (by simp [kindName]) ?_⟩
    cases url <;> cases description <;> rfl
  | paragraph text quoting, _ => by
    refine ⟨_, _, .texts rfl (@textField_texts "variant" (quoting.map Quoting.name)
      [("text", .str text)] (by decide) (by simp [TextField])) (by simp [kindName]) ?_⟩
    obtain _ | _ | _ := quoting <;> rfl
  | action a, h => by
    obtain ⟨fields, b, hfields, hread, halike⟩ := Action.reread_toFields h
    refine ⟨.obj (("type", .str "action") :: fields), .action b, .obj (.cons .str hfields),
      fun nested => ?_, .action halike⟩
    have ht : "type" ∉ fields.map Prod.fst := by
      rw [hfields.names]
      exact notMem_type_cons (by decide) (notMem_type noteFields_texts)
    rw [decode_fields (by decide) hfields.whole ht, if_neg (by decide)]
    simp only [plainOf, bind, Except.bind, hread]
    rfl
  | condition c whenTrue whenFalse, h => by
    obtain ⟨items, others, hitems, hread, halike⟩ := exists_readAll h.1
    obtain ⟨items', others', hitems', hread', halike'⟩ := exists_readAll h.2
    obtain ⟨expression, audit, source, error⟩ := c
    have hnotes := @noteFields_texts audit source error
    have hfields : Json.FieldsReread
        (_ :: _ :: _ :: noteFields audit source error)
        (("condition", .str expression) :: ("true", .arr items) :: ("false", .arr items') ::
          noteFields audit source error) :=
      .cons .str (.cons (.arr hitems) (.cons (.arr hitems') (.texts fun field h =>
        (hnotes field h).2)))
    refine ⟨.obj (("type", .str "condition") :: _), .condition ⟨expression, audit, source, error⟩
      others others', .obj (.cons .str hfields), fun nested => ?_, .condition halike halike'⟩
    rw [decode_fields (by decide) hfields.whole (notMem_type_cons (by decide) <|
      notMem_type_cons (by decide) <| notMem_type_cons (by decide) (notMem_type hnotes)),
      if_pos rfl, conditionFields_branches hread hread']
    cases audit <;> cases source <;> cases error <;> rfl

/-- Parts whose numbers read back are read as alike parts. -/
lemma exists_readAll : ∀ {parts : List Part}, ReadsBackAll parts →
    ∃ items others, Json.ItemsReread (toJsonAll parts) items ∧ DecodeAll items others ∧
      List.Forall₂ Alike parts others
  | [], _ => ⟨[], [], .nil, .nil, .nil⟩
  | part :: parts, h => by
    obtain ⟨j, other, hread⟩ := exists_read h.1
    obtain ⟨items, others, hitems, hdecode, halike⟩ := exists_readAll h.2
    exact ⟨j :: items, other :: others, .cons hread.value hitems, .cons hread.decode hdecode,
      .cons hread.alike halike⟩

end

end Part

namespace Json

/-- Items that are read one by one are read as a list. -/
lemma asList_eq {α : Type} {decode : Decoder α} {items others}
    (h : List.Forall₂ (fun j other => decode j = .ok other) items others) :
    asList decode (.arr items) = .ok others := by
  rw [asList]
  induction h with
  | nil => rfl
  | cons hj _ ih =>
    rw [List.mapM_cons, hj]
    simp only [bind, Except.bind, ih]
    rfl

/-- A list is read back when each of its members is. -/
lemma exists_asList {α : Type} {toJson : α → Json} {decode : Decoder α} {R : α → α → Prop} :
    ∀ {xs : List α}, (∀ x ∈ xs, ∃ j y, Rereads (toJson x) j ∧ decode j = .ok y ∧ R x y) →
      ∃ items ys, ItemsReread (xs.map toJson) items ∧ asList decode (.arr items) = .ok ys ∧
        List.Forall₂ R xs ys := by
  intro xs h
  suffices ∃ items ys, ItemsReread (xs.map toJson) items ∧
      List.Forall₂ (fun j y => decode j = .ok y) items ys ∧ List.Forall₂ R xs ys by
    obtain ⟨items, ys, hitems, hdecode, hR⟩ := this
    exact ⟨items, ys, hitems, asList_eq hdecode, hR⟩
  induction xs with
  | nil => exact ⟨[], [], .nil, .nil, .nil⟩
  | cons x xs ih =>
    obtain ⟨⟨j, y, hj, hy, hR⟩, hxs⟩ := List.forall_mem_cons.1 h
    obtain ⟨items, ys, hitems, hdecode, hRs⟩ := ih hxs
    exact ⟨j :: items, y :: ys, .cons hj hitems, .cons hy hdecode, .cons hR hRs⟩

end Json

/-- Parts whose numbers read back are read as a list of alike parts. -/
lemma Part.exists_asList {parts : List Part} (h : ReadsBackAll parts) :
    ∃ items others, Json.ItemsReread (toJsonAll parts) items ∧
      Json.asList Part.ofJson (.arr items) = .ok others ∧ List.Forall₂ Alike parts others := by
  obtain ⟨items, others, hitems, hread, halike⟩ := exists_readAll h
  exact ⟨items, others, hitems, Json.asList_eq (hread.imp fun _ _ h => h false), halike⟩

/-- The object of an image is read as the image. -/
lemma Image.reread_toJson {i : Image} :
    Json.Rereads (.obj i.toFields) (.obj i.toFields) ∧ ofJson (.obj i.toFields) = .ok i := by
  obtain ⟨text, url, description⟩ := i
  refine ⟨.obj (.texts fun field h => ?_), ?_⟩
  · have hurl := @textField_texts "url" url [("text", .str text)] (by decide) (by simp [TextField])
    exact (textField_texts (by decide) hurl field h).2
  · cases url <;> cases description <;> rfl

/-- A section whose numbers read back is read as an alike section. -/
lemma Section.exists_read {s : Section} (h : Part.ReadsBackAll s.parts) :
    ∃ j t, Json.Rereads s.toJson j ∧ ofJson j = .ok t ∧ s.Alike t := by
  obtain ⟨items, parts, hitems, hread, halike⟩ := Part.exists_asList h
  refine ⟨_, ⟨s.id, s.heading, parts⟩,
    .obj (.cons .str (.cons .str (.cons (.arr hitems) .nil))), ?_, rfl, rfl, halike⟩
  have hfill : Json.fillAll Slots.step {} [("id", .str s.id), ("heading", .str s.heading),
      ("parts", .arr items)] = .ok ⟨some s.id, some s.heading, some parts⟩ := by
    simp only [Json.fillAll, Slots.step, Json.fill, hread]
    rfl
  simp only [ofJson, Json.asRecord, bind, Except.bind, hfill]
  rfl

namespace Story

/-- The value of a story whose numbers read back is read as an alike story. -/
lemma reread_toJson {story : Story} (h : story.ReadsBack) :
    ∃ j other, Json.Rereads story.toJson j ∧ ofJson j = .ok other ∧ story.Alike other := by
  obtain ⟨description, parts, hdescription, hparts, halike⟩ := Part.exists_asList h.description
  obtain ⟨settings, action, hsettings, haction, hsame⟩ := Action.reread_toFields h.settings
  obtain ⟨sections, others, hsections, hothers, hsections'⟩ :=
    Json.exists_asList fun s hs => Section.exists_read (h.sections s hs)
  obtain ⟨images, illustrations, himages, hillustrations, himages'⟩ :=
    Json.exists_asList (R := Eq) fun i (_ : i ∈ story.images) =>
      ⟨_, i, i.reread_toJson.1, i.reread_toJson.2, rfl⟩
  refine ⟨_, ⟨story.title, parts, action, others, illustrations⟩,
    .obj (.cons .str (.cons (.arr hdescription) (.cons (.obj hsettings) (.cons (.arr hsections)
      (.cons (.arr himages) .nil))))), ?_, rfl, halike, hsame, hsections', ?_⟩
  · have hsettings : Action.ofJson (.obj settings) = .ok action := haction "Action"
    have hfill : Json.fillAll Slots.step {} [("title", .str story.title),
        ("description", .arr description), ("settings", .obj settings), ("sections", .arr sections),
        ("images", .arr images)] =
          .ok ⟨some story.title, some parts, some action, some others, some illustrations⟩ := by
      simp only [Json.fillAll, Slots.step, Json.fill, hparts, hsettings, hothers, hillustrations]
      rfl
    simp only [ofJson, Json.asRecord, bind, Except.bind, hfill]
    rfl
  · exact List.forall₂_eq_eq_eq ▸ himages'

/-- The document of a story whose numbers read back is read as an alike story, as long as no more
brackets lie around each other than a document may have. -/
theorem read_document {story : Story} (h : story.ReadsBack)
    (hh : story.toJson.height ≤ Json.maxDepth) :
    ∃ other, read story.toJson.compact = .ok other ∧ story.Alike other := by
  obtain ⟨j, other, hj, hread, halike⟩ := reread_toJson h
  refine ⟨other, ?_, halike⟩
  rw [read, Json.decodeText, Json.compact, String.toList_ofList,
    Json.read_compactChars hj.value hh]
  simp only [hread]
  rfl

/-- A lantern that is taken in one branch of a branch, and an empty bag in the other one. -/
def darkCellar : Story where
  title := "\x00 \x22Cellar\x22"
  description := [.comment "", .paragraph "Down.\n" (some .citation)]
  settings := .setting (.insert .empty "bag" (.table .empty))
  sections := [{
    id := "cellar"
    heading := "é"
    parts := [
      .condition ⟨"[true]", none, some "if", none⟩
        [.condition ⟨"", some "", none, some "\\"⟩
          [.action ⟨.insert .empty "oil" (.scalar (.number 0.5)), none, none, some "dry"⟩] [],
          .link ⟨"up", "#stairs", none⟩]
        [.action ⟨.insert .empty "" (.table .empty), some "", none, none⟩, .navigation "on" "#"]] }]
  images := [⟨"", none, some "lantern"⟩]

/-- The cellar is read back. -/
theorem read_document_darkCellar :
    darkCellar.ReadsBack ∧ darkCellar.toJson.height ≤ Json.maxDepth ∧
      ∃ other, read darkCellar.toJson.compact = .ok other ∧ darkCellar.Alike other := by
  have hoil : (State.insert .empty "oil" (.scalar (.number 0.5))).tree.ReadsBack := by
    rintro path x h
    obtain ⟨rfl, rfl⟩ : path = ["oil"] ∧ x = 0.5 := by
      simpa [State.insert, State.Entry.value, State.empty, Tree.insert, Tree.cons, Tree.leaves]
        using h
    exact ⟨.fraction 0.5, by decide +kernel, by decide +kernel⟩
  have hbag : ∀ key, (State.insert .empty key (.table .empty)).tree.ReadsBack := by
    intro key path x h
    simp [State.insert, State.Entry.value, State.empty, Tree.insert, Tree.cons, Tree.leaves] at h
  have h : darkCellar.ReadsBack := by
    refine ⟨⟨trivial, trivial, trivial⟩, hbag "bag", List.forall_mem_singleton.2 ?_⟩
    exact ⟨⟨⟨⟨⟨hoil, trivial⟩, trivial⟩, trivial, trivial⟩, hbag "", trivial, trivial⟩, trivial⟩
  have hh : darkCellar.toJson.height ≤ Json.maxDepth := by decide +kernel
  exact ⟨h, hh, read_document h hh⟩

end Story

end Gamebook
