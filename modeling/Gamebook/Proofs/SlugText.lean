import Gamebook.Proofs.Scanning
import Gamebook.Text.Slug

/-!
# Slugs are read back

A slug spells the bytes of its heading in lower case, with hyphens for spaces, in an alphabet that
is safe in an address, and these bytes can be read off it. So two headings have the same slug only
if they are the same text in lower case. Main definition: `Text.IsSlug`. Main statements:
`Text.percentDecode_percentEncode`, `Text.slugify_reads_back`.
-/

namespace Gamebook.Text

/-- Whether a character is an upper-case hexadecimal digit. -/
def isUpperHexDigit (c : Char) : Bool :=
  c.isDigit || 'A' ≤ c && c ≤ 'F'

/-- The texts of characters that stand for themselves in a slug, and of bytes in two digits. -/
inductive IsSlug : List Char → Prop where
  /-- There is no more text. -/
  | nil : IsSlug []
  /-- A character stands for itself. -/
  | char {c cs} (hc : isSlugChar c = true) (h : IsSlug cs) : IsSlug (c :: cs)
  /-- Two digits stand for a byte. -/
  | byte {high low cs} (hhigh : isUpperHexDigit high = true) (hlow : isUpperHexDigit low = true)
    (h : IsSlug cs) : IsSlug ('%' :: high :: low :: cs)

variable {c : Char} {cs ds : List Char} {n : Nat}

section Alphabet

lemma isUpperHexDigit_hexDigit (h : n < 16) : isUpperHexDigit (hexDigit n) = true :=
  (by decide : ∀ n < 16, isUpperHexDigit (hexDigit n) = true) n h

lemma hexValue?_hexDigit (h : n < 16) : hexValue? (hexDigit n) = some n :=
  (by decide : ∀ n < 16, hexValue? (hexDigit n) = some n) n h

/-- The digits of a byte are characters that stand for themselves. -/
lemma isSlugChar_of_isUpperHexDigit (h : isUpperHexDigit c = true) : isSlugChar c = true := by
  rw [isUpperHexDigit, Bool.or_eq_true, Bool.and_eq_true, decide_eq_true_eq,
    decide_eq_true_eq] at h
  have hword : c.isAlphanum = true := by
    obtain h | ⟨hfirst, hlast⟩ := h
    · exact Bool.or_eq_true_iff.2 (.inr h)
    · have hupper : c.isUpper = true :=
        decide_eq_true ⟨hfirst, Nat.le_trans hlast (by decide)⟩
      exact Bool.or_eq_true_iff.2 (.inl (Bool.or_eq_true_iff.2 (.inl hupper)))
  rw [isSlugChar, hword, Bool.true_or]

/-- The characters of slugs are visible characters of the ASCII range. -/
lemma isVisible_of_isSlugChar (h : isSlugChar c = true) : Token.isVisible c = true := by
  rw [isSlugChar, Bool.or_eq_true, decide_eq_true_eq] at h
  obtain h | h := h
  · exact Token.isVisible_of_isNameChar (by rw [Token.isNameChar, h]; rfl)
  · exact List.all_eq_true.1 (by rfl : ['-', '_', '.', '!', '~', '*', '\x27', '(', ')'].all
      Token.isVisible = true) c h

end Alphabet

namespace IsSlug

lemma append (hc : IsSlug cs) (hd : IsSlug ds) : IsSlug (cs ++ ds) := by
  induction hc with
  | nil => exact hd
  | char hc _ ih => exact .char hc ih
  | byte hhigh hlow _ ih => exact .byte hhigh hlow ih

lemma bytes (bs : List UInt8) : IsSlug (bs.flatMap percentByte) := by
  induction bs with
  | nil => exact .nil
  | cons b bs ih =>
    have hhigh : b.toNat / 16 < 16 := by have := b.toNat_lt; omega
    have hlow : b.toNat % 16 < 16 := Nat.mod_lt _ (by decide)
    exact .byte (isUpperHexDigit_hexDigit hhigh) (isUpperHexDigit_hexDigit hlow) ih

/-- A percent-encoded text is a slug. -/
lemma percentEncode (cs : List Char) : IsSlug (cs.flatMap percentEncodeChar) := by
  induction cs with
  | nil => exact .nil
  | cons c cs ih =>
    rw [List.flatMap_cons, percentEncodeChar]
    split
    · next hc => exact .char hc ih
    · exact (bytes _).append ih

/-- A character of a slug stands for itself, or is the sign before the digits of a byte. -/
lemma mem_cases (h : IsSlug cs) (hc : c ∈ cs) : isSlugChar c = true ∨ c = '%' := by
  induction h with
  | nil => cases hc
  | char hd _ ih =>
    obtain rfl | hc := List.mem_cons.1 hc
    · exact .inl hd
    · exact ih hc
  | byte hhigh hlow _ ih =>
    obtain rfl | hc := List.mem_cons.1 hc
    · exact .inr rfl
    obtain rfl | hc := List.mem_cons.1 hc
    · exact .inl (isSlugChar_of_isUpperHexDigit hhigh)
    obtain rfl | hc := List.mem_cons.1 hc
    · exact .inl (isSlugChar_of_isUpperHexDigit hlow)
    · exact ih hc

end IsSlug

section Decode

/-- A character that stands for itself is read as its byte. -/
lemma percentDecode_char (h : isSlugChar c = true) :
    percentDecode (c :: cs) = (percentDecode cs).map (String.utf8EncodeChar c ++ ·) := by
  have hne : c ≠ '%' := by
    rintro rfl
    cases h
  have hbyte : String.utf8EncodeChar c = [.ofNat c.toNat] := by
    have hascii := isVisible_of_isSlugChar h
    rw [Token.isVisible, Bool.and_eq_true, decide_eq_true_eq, decide_eq_true_eq] at hascii
    exact if_pos (Nat.le_trans hascii.2 (by decide))
  rw [percentDecode, if_neg hne, hbyte]
  · rfl
  · exact fun _ _ _ hc => absurd hc hne

/-- A byte is read off its two digits. -/
lemma percentDecode_byte (b : UInt8) :
    percentDecode (percentByte b ++ cs) = (percentDecode cs).map (b :: ·) := by
  have hb := b.toNat_lt
  have hhigh := @hexValue?_hexDigit (b.toNat / 16) (by omega)
  have hlow := @hexValue?_hexDigit (b.toNat % 16) (Nat.mod_lt _ (by decide))
  have hwhole : UInt8.ofNat (b.toNat / 16 * 16 + b.toNat % 16) = b := by
    rw [Nat.div_add_mod']
    exact UInt8.ofNat_toNat
  rw [percentByte, List.cons_append, List.cons_append, List.cons_append, List.nil_append,
    percentDecode, hhigh, hlow]
  simp only [bind, Option.bind, hwhole]
  cases percentDecode cs <;> rfl

lemma percentDecode_bytes (bs : List UInt8) :
    percentDecode (bs.flatMap percentByte ++ cs) = (percentDecode cs).map (bs ++ ·) := by
  induction bs with
  | nil => simp
  | cons b bs ih =>
    rw [List.flatMap_cons, List.append_assoc, percentDecode_byte, ih, Option.map_map]
    rfl

/-- The bytes of a text are read off its percent-encoding. -/
lemma percentDecode_percentEncode (cs : List Char) :
    percentDecode (cs.flatMap percentEncodeChar) = some (utf8 cs) := by
  induction cs with
  | nil => rfl
  | cons c cs ih =>
    rw [List.flatMap_cons, percentEncodeChar]
    split
    · next hc =>
      rw [List.singleton_append, percentDecode_char hc, ih]
      rfl
    · rw [percentDecode_bytes, ih]
      rfl

/-- Two texts with the same bytes are the same. -/
lemma utf8_injective (h : utf8 cs = utf8 ds) : cs = ds := by
  have hdecode := decodeUtf8_utf8 cs
  rw [h, decodeUtf8_utf8] at hdecode
  exact (String.ofList_injective (Except.ok.inj hdecode)).symm

end Decode

/-- A character of a slug is none of the signs that addresses are divided by, and no blank. -/
lemma not_mem_of_isSlug (h : IsSlug cs) (hc : c ∈ cs) :
    c ∉ ['#', '?', '/'] ∧ isBlank c = false := by
  obtain hc | rfl := h.mem_cases hc
  · refine ⟨fun hmem => ?_, Token.not_isBlank_of_isVisible (isVisible_of_isSlugChar hc)⟩
    have hnone : ['#', '?', '/'].all (!isSlugChar ·) = true := rfl
    rw [List.all_eq_true] at hnone
    exact absurd hc (by simpa using hnone c hmem)
  · decide

lemma isSlug_slugify (heading : String) : IsSlug (slugify heading).toList := by
  rw [slugify, String.toList_ofList]
  exact .percentEncode _

lemma percentDecode_slugify (heading : String) :
    percentDecode (slugify heading).toList = some (utf8 (slugText heading.toList)) := by
  rw [slugify, String.toList_ofList]
  exact percentDecode_percentEncode _

/--
The slug of a heading consists of characters that are safe in an address and of bytes as `%` and two
upper-case digits, so it has no blank and none of the signs that addresses are divided by. The bytes
of the heading in lower case, with hyphens for its spaces, are read off it. So two headings have the
same slug exactly if they are the same text in lower case with hyphens for spaces.
-/
theorem slugify_reads_back (heading : String) :
    IsSlug (slugify heading).toList ∧
    (∀ c ∈ (slugify heading).toList, c ∉ ['#', '?', '/'] ∧ isBlank c = false) ∧
    percentDecode (slugify heading).toList = some (utf8 (slugText heading.toList)) ∧
    ∀ other : String,
      slugify heading = slugify other ↔ slugText heading.toList = slugText other.toList := by
  have hslug := isSlug_slugify heading
  refine ⟨hslug, fun c hc => not_mem_of_isSlug hslug hc, percentDecode_slugify heading, ?_⟩
  intro other
  constructor
  · intro h
    have hbytes := percentDecode_slugify heading
    rw [h, percentDecode_slugify other] at hbytes
    exact (utf8_injective (Option.some.inj hbytes)).symm
  · intro h
    rw [slugify, slugify, h]

example : slugify "Über 7% #1" = "%C3%BCber-7%25-%231" := by decide +kernel

end Gamebook.Text
