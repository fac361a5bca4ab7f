import AssetMinifier.Proofs.Layout.Cell

/-!
# Texts that show cells

A text whose white space is collapsed shows its cells: it is the way they are
written, up to a blank at the end.  Deciding gaps anew leaves such a text
legible, as long as no gap between two stray bytes is touched.
-/

namespace AssetMinifier.Layout

open Text (Legible strayFront)

/-- A sequence of runes shows cells if it is written from them, with or
without a blank at the end. -/
def Shows (rs : List Rune) (cs : List Cell) : Prop :=
  ∃ trailing, rs = write cs ++ separator trailing

/-! ## Legibility -/

theorem legible_separator_append
    {needed : Bool} {rs : List Rune} :
    Legible (separator needed ++ rs) ↔ Legible rs := by
  cases needed with
  | false => rfl
  | true => exact Text.legible_char_cons

/-- A rule for gaps leaves the gaps between stray bytes alone. -/
def KeepsStrays (f : List Cell → Cell → Bool) : Prop :=
  ∀ a past c b d, a.rune = .stray b → c.rune = .stray d →
    f (a :: past) c = c.gap

theorem strayFront_separator_char
    (needed : Bool) (c : Char) (rs : List Rune) :
    strayFront (separator needed ++ .char c :: rs) = [] := by
  cases needed with
  | false => rfl
  | true => rfl

theorem strayFront_write_respace
    {f : List Cell → Cell → Bool} (hf : KeepsStrays f)
    {a : Cell} {b : UInt8} (ha : a.rune = .stray b)
    (past cs : List Cell) :
    strayFront (write (respace f (a :: past) cs)) =
      strayFront (write cs) := by
  induction cs generalizing a b past with
  | nil => rfl
  | cons c cs ih =>
      rw [respace, write_cons, write_cons, Cell.withGap_gap,
        Cell.withGap_rune]
      cases hc : c.rune with
      | char d =>
          rw [strayFront_separator_char, strayFront_separator_char]
      | stray d =>
          rw [hf a past c b d ha hc]
          cases c.gap with
          | false => exact congrArg (d :: ·) (ih hc (a :: past))
          | true => rfl

theorem legible_write_respace
    {f : List Cell → Cell → Bool} (hf : KeepsStrays f)
    (past cs : List Cell) :
    Legible (write (respace f past cs)) ↔ Legible (write cs) := by
  induction cs generalizing past with
  | nil => rfl
  | cons c cs ih =>
      rw [respace, write_cons, write_cons, Cell.withGap_rune,
        legible_separator_append, legible_separator_append]
      cases hc : c.rune with
      | char d =>
          rw [Text.legible_char_cons, Text.legible_char_cons, ih]
      | stray d =>
          rw [Text.legible_stray_cons, Text.legible_stray_cons,
            strayFront_write_respace hf hc, ih]

theorem Shows.legible_iff
    {rs : List Rune} {cs : List Cell} (h : Shows rs cs) :
    Legible rs ↔ Legible (write cs) := by
  obtain ⟨trailing, rfl⟩ := h
  cases trailing with
  | false => rw [separator, if_neg Bool.false_ne_true, List.append_nil]
  | true =>
      exact Text.legible_append_char.trans (and_iff_left Text.legible_nil)

/-! ## Passes over a text -/

theorem runes_mapRunes
    {f : List Rune → List Rune} {t : Text} (h : Legible (f t.runes)) :
    (Text.mapRunes f t).runes = f t.runes :=
  h

/-- What a pass shows is read from what it wrote, if the pass keeps the text
legible. -/
theorem Shows.mapRunes
    {t : Text} {cs ds : List Cell} {f : List Rune → List Rune}
    (h : Shows t.runes cs) (hf : Shows (f t.runes) ds)
    (hlegible : Legible (write cs) → Legible (write ds)) :
    Shows (Text.mapRunes f t).runes ds := by
  have hread : Legible (f t.runes) :=
    hf.legible_iff.mpr (hlegible (h.legible_iff.mp (Text.legible_runes t)))
  rw [runes_mapRunes hread]
  exact hf

end AssetMinifier.Layout
