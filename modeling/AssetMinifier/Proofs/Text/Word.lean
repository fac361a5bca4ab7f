import AssetMinifier.Text.Word

/-!
# White space and words

No rune is white space and part of a word at once.  The white space characters
are few, so each of them is looked up in the table of word characters.
-/

namespace AssetMinifier

namespace CodeRange

/-- The code points of a list of ranges. -/
def points (ranges : List CodeRange) : List Nat :=
  ranges.flatMap fun r => List.range' r.first (r.last + 1 - r.first)

theorem mem_points_of_contains
    {ranges : List CodeRange} {n : Nat} (h : contains ranges n) :
    n ∈ points ranges := by
  induction ranges with
  | nil => simp [contains] at h
  | cons r ranges ih =>
      rw [points, List.flatMap_cons, List.mem_append, ← points]
      rw [contains] at h
      by_cases hfirst : n < r.first
      · simp [hfirst] at h
      · by_cases hlast : n ≤ r.last
        · left
          rw [List.mem_range'_1]
          omega
        · right
          exact ih (by simpa [hfirst, hlast] using h)

end CodeRange

theorem contains_wordRanges_of_mem_spaceRanges :
    ∀ n ∈ CodeRange.points spaceRanges,
      CodeRange.contains wordRanges n = false := by
  decide +kernel

namespace Rune

theorem isWord_eq_false_of_isSpace
    {r : Rune} (h : r.isSpace) :
    r.isWord = false := by
  cases r with
  | char c =>
      exact contains_wordRanges_of_mem_spaceRanges c.toNat
        (CodeRange.mem_points_of_contains h)
  | stray b => rfl

end Rune

end AssetMinifier
