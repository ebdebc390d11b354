import Gamebook.Bookmark
import Gamebook.Proofs.Base64
import Gamebook.Proofs.StateText

/-!
# Bookmarks read back

The text of a bookmark is read as a bookmark of the same section with an alike state, and so is the
state alone, with or without the key before it. Main statement: `Bookmark.read_back`.
-/

namespace Gamebook

deriving instance DecidableEq for Bookmark

/-- A byte that is written as Base64 is an ASCII character that is not blank. -/
lemma Text.Base64.asciiText_byte {b bytes} (h : b ∈ encode bytes) :
    String.utf8EncodeChar (Char.ofNat b.toNat) = [b] ∧ isBlank (Char.ofNat b.toNat) = false := by
  obtain rfl | ⟨v, hv, rfl⟩ := mem_encode h
  · decide
  · exact (by decide : ∀ v < 64, String.utf8EncodeChar (Char.ofNat (symbol v).toNat) = [symbol v] ∧
      isBlank (Char.ofNat (symbol v).toNat) = false) v hv

/-- The bytes of what is written as Base64 are what is written. -/
lemma Text.Base64.utf8_asciiText {bytes} : utf8 (asciiText (encode bytes)) = encode bytes := by
  have h : ∀ b ∈ encode bytes, String.utf8EncodeChar (Char.ofNat b.toNat) = [b] :=
    fun b hb => (asciiText_byte hb).1
  rw [utf8, asciiText, List.flatMap_map]
  generalize encode bytes = cs at h
  induction cs with
  | nil => rfl
  | cons b cs ih =>
    rw [List.flatMap_cons, h b List.mem_cons_self, ih fun c hc => h c (List.mem_cons_of_mem _ hc)]
    rfl

namespace State

/-- The payload of a state ends with a character that is not blank. -/
lemma payload_last {state : State} :
    ∃ cs d, state.payload.toList = cs ++ [d] ∧ Text.isBlank d = false := by
  rw [payload, String.toList_ofList]
  generalize e : Text.Base64.encode (Text.utf8 state.toJson.compactChars) = bytes
  obtain rfl | ⟨bytes, b, rfl⟩ := bytes.eq_nil_or_concat
  · exact (Text.Base64.encode_ne_nil e).elim
  · refine ⟨asciiText bytes, Char.ofNat b.toNat, by simp [asciiText], ?_⟩
    exact (Text.Base64.asciiText_byte (by rw [e]; simp)).2

/-- The query of a state is the key and the payload, with no blank at the ends. -/
lemma trim_query {state : State} : Text.trim state.query.toList = state.query.toList := by
  obtain ⟨cs, d, hcs, hd⟩ := state.payload_last
  rw [query, String.toList_ofList, hcs, ← List.append_assoc]
  refine Text.trim_of_ends (by simp) ?_ ?_
  · rintro c ⟨⟩
    rfl
  · rw [List.getLast?_concat]
    rintro c ⟨⟩
    exact hd

/-- The document of a state starts with a brace, so its payload starts with the symbol for that. -/
lemma payload_first {state : State} : ∃ cs, state.payload.toList = 'e' :: cs := by
  obtain ⟨symbols, h⟩ :=
    @Text.Base64.encode_cons 0x7b (Text.utf8 (Json.compactFields state.tree.toFields))
  rw [payload, String.toList_ofList,
    show Text.utf8 state.toJson.compactChars =
      0x7b :: Text.utf8 (Json.compactFields state.tree.toFields) from rfl, h]
  exact ⟨asciiText symbols, rfl⟩

/-- The payload of a state has no blank at the ends. -/
lemma trim_payload {state : State} : Text.trim state.payload.toList = state.payload.toList := by
  obtain ⟨first, hfirst⟩ := state.payload_first
  obtain ⟨cs, d, hcs, hd⟩ := state.payload_last
  refine Text.trim_of_ends (by rw [hcs]; simp) ?_ ?_
  · rw [hfirst]
    rintro c ⟨⟩
    rfl
  · rw [hcs, List.getLast?_concat]
    rintro c ⟨⟩
    exact hd

variable {state state' : State}

/-- What has the payload of a state, with or without the key, is read as its document is. -/
lemma ofPayload_eq {text : String}
    (h : (Text.dropPrefix? stateKey (Text.trim text.toList)).getD (Text.trim text.toList) =
      state.payload.toList) :
    State.ofPayload text = (State.read state.text).mapError .document := by
  obtain ⟨cs, d, hcs, -⟩ := state.payload_last
  have hbytes : Text.utf8 state.payload.toList =
      Text.Base64.encode (Text.utf8 state.toJson.compactChars) := by
    rw [payload, String.toList_ofList, Text.Base64.utf8_asciiText]
  simp only [ofPayload, h]
  rw [if_neg (by rw [hcs]; simp), hbytes, Text.Base64.decode_encode]
  simp only [Text.decodeUtf8_utf8]
  rw [show String.ofList state.toJson.compactChars = state.text from rfl]
  cases State.read state.text <;> rfl

/-- The payload of a state is read as its document is. -/
lemma ofPayload_payload (hread : State.read state.text = .ok state') :
    State.ofPayload state.payload = .ok state' := by
  obtain ⟨cs, hcs⟩ := state.payload_first
  -- a payload does not start with the key, so nothing is dropped from it
  have hdrop : (Text.dropPrefix? stateKey (Text.trim state.payload.toList)).getD
      (Text.trim state.payload.toList) = state.payload.toList := by
    rw [trim_payload, hcs]
    rfl
  rw [ofPayload_eq hdrop, hread]
  rfl

/-- The query of a state is read as its document is, or has the fault of its document. -/
lemma ofPayload_query_eq :
    State.ofPayload state.query = (State.read state.text).mapError .document := by
  have hdrop : Text.dropPrefix? stateKey state.query.toList = some state.payload.toList :=
    Text.dropPrefix?_eq_some_iff.2 (by rw [query, String.toList_ofList])
  refine ofPayload_eq ?_
  rw [trim_query, hdrop, Option.getD_some]

/-- The query of a state is read as its document is. -/
lemma ofPayload_query (hread : State.read state.text = .ok state') :
    State.ofPayload state.query = .ok state' := by
  rw [ofPayload_query_eq, hread]
  rfl

end State

namespace Bookmark

variable {b : Bookmark} {state' : State}

/-- The text of a bookmark has no blank at the ends. -/
lemma trim_text :
    Text.trim b.text.toList = '#' :: (b.sectionId.toList ++ '?' :: b.state.query.toList) := by
  obtain ⟨cs, d, hcs, hd⟩ := b.state.payload_last
  rw [text, String.toList_ofList, State.query, String.toList_ofList, hcs]
  refine Text.trim_of_ends (List.cons_ne_nil _ _) ?_ ?_
  · rintro c ⟨⟩
    rfl
  · intro c hc
    obtain rfl : d = c := by simpa [List.getLast?_cons, List.getLast?_append] using hc
    exact hd

/-- The text of a bookmark is read as a bookmark of the same section, with the state of its
document. -/
lemma read_text_of_read (hid : b.sectionId ≠ "" ∧ '?' ∉ b.sectionId.toList)
    (hread : State.read b.state.text = .ok state') :
    Bookmark.read b.text = .ok ⟨b.sectionId, state'⟩ := by
  have hne : b.sectionId.toList ≠ [] := fun e => hid.1 (String.toList_eq_nil_iff.1 e)
  simp only [read, trim_text, Text.dropPrefix?, if_true, Option.getD_some,
    Text.cutAtFirst?_append hid.2, if_neg hne, String.ofList_toList, State.ofPayload_query hread]
  rfl

/-- The text of a bookmark is read as a bookmark of the same section with an alike state. -/
lemma read_text (hid : b.sectionId ≠ "" ∧ '?' ∉ b.sectionId.toList)
    (hn : b.state.tree.ReadsBack) (hh : b.state.toJson.height ≤ Json.maxDepth) :
    ∃ state', Bookmark.read b.text = .ok ⟨b.sectionId, state'⟩ ∧ b.state.Alike state' := by
  obtain ⟨state', hread, halike⟩ := State.read_text hn hh
  exact ⟨state', read_text_of_read hid hread, halike⟩

end Bookmark

/--
A state that nests at most 127 tables and whose numbers read back is read from its payload, from its
query and from the text of a bookmark of any section, each time as the same state, with the same keys
in the same order, the same texts and equal numbers. The name of the section may have any characters
but a question mark.
-/
theorem Bookmark.read_back (state : State) (hn : state.tree.ReadsBack)
    (hh : state.toJson.height ≤ Json.maxDepth) :
    ∃ state', state.Alike state' ∧
      State.ofPayload state.payload = .ok state' ∧ State.ofPayload state.query = .ok state' ∧
        ∀ sectionId : String, sectionId ≠ "" → '?' ∉ sectionId.toList →
          Bookmark.read (Bookmark.text ⟨sectionId, state⟩) = .ok ⟨sectionId, state'⟩ := by
  obtain ⟨state', hread, halike⟩ := State.read_text hn hh
  refine ⟨state', halike, State.ofPayload_payload hread, State.ofPayload_query hread, ?_⟩
  intro sectionId hne hmark
  exact read_text_of_read ⟨hne, hmark⟩ hread

/-- A bag with texts that look like other values, an empty purse and a broken coin. -/
def brokenCoin : State :=
  let bag : State := .insert (.insert .empty "" (.scalar (.text "true"))) "coin" (.scalar (.number 0.5))
  .insert (.insert (.insert .empty "3" (.scalar (.text "3\x00\x22\né"))) "bag" (.table bag))
    "purse" (.table .empty)

/-- The bag is read back, also with a section whose name is made of signs and blanks. -/
theorem Bookmark.read_back_brokenCoin :
    brokenCoin.tree.ReadsBack ∧ brokenCoin.toJson.height ≤ Json.maxDepth ∧
      ∃ state', brokenCoin.Alike state' ∧
        State.ofPayload brokenCoin.payload = .ok state' ∧
          State.ofPayload brokenCoin.query = .ok state' ∧
            Bookmark.read (Bookmark.text ⟨" #é=# ", brokenCoin⟩) = .ok ⟨" #é=# ", state'⟩ := by
  have hn : brokenCoin.tree.ReadsBack := by
    rintro path x h
    obtain ⟨rfl, rfl⟩ : path = ["bag", "coin"] ∧ x = 0.5 := by
      simpa [brokenCoin, State.insert, State.Entry.value, State.empty, Tree.insert, Tree.cons,
        Tree.leaves] using h
    exact ⟨.fraction 0.5, by decide +kernel, by decide +kernel⟩
  have hh : brokenCoin.toJson.height ≤ Json.maxDepth := by decide +kernel
  obtain ⟨state', halike, hpayload, hquery, hread⟩ := read_back brokenCoin hn hh
  exact ⟨hn, hh, state', halike, hpayload, hquery, hread " #é=# " (by decide) (by decide)⟩

end Gamebook
