import AssetMinifier.Proofs.Text.Legible
import AssetMinifier.Text.Space

/-!
# Trimmed texts

A text is trimmed if no white space character stands at its front or at its
end.  Trimming cuts a text between two runes.  What is left is read as the
runes that are left, also where stray bytes stand at the cut, and it is
trimmed.
-/

namespace AssetMinifier

namespace Text

open String (utf8EncodeChar)

/-- No white space character stands at the front or at the end of a text. -/
def IsTrimmed (t : Text) : Prop :=
  ∀ c : Char, (Rune.char c).isSpace →
    ¬utf8EncodeChar c <+: t ∧ ¬utf8EncodeChar c <:+ t

/-! ## The first and the last rune -/

theorem utf8EncodeChar_prefix_iff
    {c : Char} {t : Text} :
    utf8EncodeChar c <+: t ↔ t.runes.head? = some (.char c) := by
  constructor
  · rintro ⟨rest, rfl⟩
    rw [runes_utf8EncodeChar_append, List.head?_cons]
  · intro h
    obtain ⟨rs, hrs⟩ := List.head?_eq_some_iff.mp h
    refine ⟨ofRunes rs, ?_⟩
    rw [← ofRunes_runes t, hrs]
    rfl

/-- The bytes of a character at the end of a text are its last rune, whatever
bytes stand before them. -/
theorem utf8EncodeChar_suffix_iff
    {c : Char} {t : Text} :
    utf8EncodeChar c <:+ t ↔ t.runes.getLast? = some (.char c) := by
  constructor
  · rintro ⟨s, rfl⟩
    have hrunes := runes_append_utf8EncodeChar s c []
    rw [List.append_nil] at hrunes
    rw [hrunes]
    exact List.getLast?_concat
  · intro h
    obtain ⟨rs, hrs⟩ := List.getLast?_eq_some_iff.mp h
    refine ⟨ofRunes rs, ?_⟩
    rw [← ofRunes_runes t, hrs, ofRunes_append]
    simp [ofRunes, Rune.bytes]

theorem isTrimmed_iff
    {t : Text} :
    t.IsTrimmed ↔
      (∀ r ∈ t.runes.head?, ¬r.isSpace) ∧
        ∀ r ∈ t.runes.getLast?, ¬r.isSpace := by
  simp only [IsTrimmed, utf8EncodeChar_prefix_iff, utf8EncodeChar_suffix_iff]
  constructor
  · intro h
    refine ⟨?_, ?_⟩
    · intro r hr hspace
      cases r with
      | char c => exact (h c hspace).1 hr
      | stray b => cases hspace
    · intro r hr hspace
      cases r with
      | char c => exact (h c hspace).2 hr
      | stray b => cases hspace
  · rintro ⟨hfront, hback⟩ c hspace
    exact ⟨fun h => hfront _ h hspace, fun h => hback _ h hspace⟩

/-! ## Trimming -/

theorem not_isSpace_of_head?_trimStartRunes
    {rs : List Rune} {r : Rune} (h : r ∈ (trimStartRunes rs).head?) :
    ¬r.isSpace := by
  have hnot := List.head?_dropWhile_not Rune.isSpace rs
  rw [trimStartRunes] at h
  rw [h] at hnot
  simpa using hnot

theorem trimStartRunes_eq_self
    {rs : List Rune} (h : ∀ r ∈ rs.head?, ¬r.isSpace) :
    trimStartRunes rs = rs := by
  cases rs with
  | nil => rfl
  | cons r rs => exact List.dropWhile_cons_of_neg (h r rfl)

theorem trimRunes_prefix_trimStartRunes
    (rs : List Rune) :
    trimRunes rs <+: trimStartRunes rs := by
  rw [← List.reverse_suffix, trimRunes, List.reverse_reverse]
  exact List.dropWhile_suffix _

theorem trimRunes_isInfix
    (rs : List Rune) :
    trimRunes rs <:+: rs :=
  (trimRunes_prefix_trimStartRunes rs).isInfix.trans
    (List.dropWhile_suffix _).isInfix

theorem runes_trim
    (t : Text) :
    (trim t).runes = trimRunes t.runes :=
  (legible_runes t).of_isInfix (trimRunes_isInfix t.runes)

theorem trim_isInfix
    (t : Text) :
    trim t <:+: t := by
  obtain ⟨before, after, hsplit⟩ := trimRunes_isInfix t.runes
  refine ⟨ofRunes before, ofRunes after, ?_⟩
  have hbytes := congrArg ofRunes hsplit
  rwa [ofRunes_append, ofRunes_append, ofRunes_runes] at hbytes

/-- What is left by trimming is trimmed. -/
theorem isTrimmed_trim
    (t : Text) :
    (trim t).IsTrimmed := by
  rw [isTrimmed_iff, runes_trim]
  constructor
  · intro r hr
    -- The end is cut behind the first rune that is not white space.
    obtain ⟨rest, hrest⟩ := trimRunes_prefix_trimStartRunes t.runes
    have hfirst : r ∈ (trimStartRunes t.runes).head? := by
      rw [← hrest, List.head?_append, hr]
      rfl
    exact not_isSpace_of_head?_trimStartRunes hfirst
  · intro r hr
    rw [trimRunes, List.getLast?_reverse] at hr
    exact not_isSpace_of_head?_trimStartRunes hr

theorem trim_eq_self_iff
    {t : Text} :
    trim t = t ↔ t.IsTrimmed := by
  constructor
  · intro h
    rw [← h]
    exact isTrimmed_trim t
  · intro h
    obtain ⟨hfront, hback⟩ := isTrimmed_iff.mp h
    apply runes_injective
    rw [← List.head?_reverse] at hback
    rw [runes_trim, trimRunes, trimStartRunes_eq_self hfront,
      trimStartRunes_eq_self hback, List.reverse_reverse]

end Text

end AssetMinifier
