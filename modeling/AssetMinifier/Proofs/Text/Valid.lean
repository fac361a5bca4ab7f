import AssetMinifier.Proofs.Text.Legible

/-!
# Texts in UTF-8

A text is valid if it is the UTF-8 form of a string.  Its runes are then the
characters of that string.  A character of one byte divides a valid text into
valid texts, since its byte occurs in no other character.
-/

namespace AssetMinifier

namespace Text

open String (utf8EncodeChar)

/-- A text is valid if its bytes are UTF-8. -/
def IsValid (t : Text) : Prop :=
  t.toByteArray.IsValidUTF8

theorem ofString_eq
    (s : String) :
    ofString s = ofRunes (Rune.ofString s) := by
  rw [ofString, ← String.utf8Encode_toList, List.utf8Encode]
  simp [ofRunes, Rune.ofString, List.flatMap_map, Rune.bytes]

/-- The runes of a string are its characters. -/
@[simp]
theorem runes_ofString
    (s : String) :
    (ofString s).runes = Rune.ofString s := by
  rw [ofString_eq]
  apply legible_of_isSome_char?
  intro r hr
  obtain ⟨c, -, rfl⟩ := List.mem_map.mp hr
  rfl

theorem isValid_iff_exists_ofString
    {t : Text} :
    t.IsValid ↔ ∃ s : String, t = ofString s := by
  constructor
  · intro h
    exact ⟨String.ofByteArray t.toByteArray h, by simp [ofString]⟩
  · rintro ⟨s, rfl⟩
    have hbytes : (ofString s).toByteArray = s.toByteArray :=
      ByteArray.ext (by simp [ofString])
    rw [IsValid, hbytes]
    exact s.isValidUTF8

theorem isValid_nil : IsValid [] :=
  isValid_iff_exists_ofString.mpr ⟨"", rfl⟩

theorem isValid_iff
    {t : Text} :
    t.IsValid ↔ ∀ r ∈ t.runes, r.char?.isSome := by
  rw [isValid_iff_exists_ofString]
  constructor
  · rintro ⟨s, rfl⟩ r hr
    rw [runes_ofString] at hr
    obtain ⟨c, -, rfl⟩ := List.mem_map.mp hr
    rfl
  · intro h
    refine ⟨String.ofList (t.runes.filterMap Rune.char?), ?_⟩
    have hchars : (t.runes.filterMap Rune.char?).map Rune.char = t.runes := by
      rw [List.map_filterMap]
      conv_rhs => rw [← List.filterMap_some (l := t.runes)]
      apply List.filterMap_congr
      intro r hr
      cases r with
      | char c => rfl
      | stray b => exact absurd (h _ hr) (by simp [Rune.char?])
    rw [ofString_eq, Rune.ofString, String.toList_ofList, hchars,
      ofRunes_runes]

theorem isWellFormed_iff
    {t : Text} :
    t.isWellFormed = true ↔ t.IsValid := by
  rw [isValid_iff, isWellFormed, List.all_eq_true]

instance : DecidablePred IsValid :=
  fun t => decidable_of_iff (t.isWellFormed = true) isWellFormed_iff

theorem isValid_ofRunes
    {rs : List Rune} (h : ∀ r ∈ rs, r.char?.isSome) :
    (ofRunes rs).IsValid := by
  rw [isValid_iff, legible_of_isSome_char? h]
  exact h

/-! ## Valid texts in parts -/

theorem runes_append
    {s : Text} (h : s.IsValid) (t : Text) :
    (s ++ t).runes = s.runes ++ t.runes := by
  have hread : Legible (s.runes ++ t.runes) :=
    (legible_append_of_isSome_char? (isValid_iff.mp h)).mpr (legible_runes t)
  rwa [Legible, ofRunes_append, ofRunes_runes, ofRunes_runes] at hread

theorem IsValid.append
    {s t : Text} (hs : s.IsValid) (ht : t.IsValid) :
    (s ++ t).IsValid := by
  rw [isValid_iff, runes_append hs]
  intro r hr
  rcases List.mem_append.mp hr with hr | hr
  · exact isValid_iff.mp hs r hr
  · exact isValid_iff.mp ht r hr

section

variable {c : Char} {b : UInt8} (hc : utf8EncodeChar c = [b])
include hc

/-- A byte that is a character divides the runes of a text. -/
theorem runes_append_cons
    (s t : Text) :
    (s ++ b :: t).runes = s.runes ++ .char c :: t.runes := by
  have hrunes := runes_append_utf8EncodeChar s c t
  rwa [hc] at hrunes

theorem isValid_append_cons_iff
    {s t : Text} :
    (s ++ b :: t).IsValid ↔ s.IsValid ∧ t.IsValid := by
  simp only [isValid_iff, runes_append_cons hc, List.forall_mem_append,
    List.forall_mem_cons]
  simp [Rune.char?]

theorem isValid_cons_iff
    {t : Text} :
    IsValid (b :: t) ↔ t.IsValid := by
  rw [← List.nil_append (b :: t), isValid_append_cons_iff hc]
  exact and_iff_right isValid_nil

end

end Text

end AssetMinifier
