import AssetMinifier.Proofs.Minify.Keyword

/-!
# Blanks behind keywords

What the rules for a list of keywords do to a text, said of its positions: a
blank is put in wherever a keyword stands as a word of its own and a boundary
rune follows, and nothing else changes.  So it matters which keywords there
are, but neither their order nor how often they are listed.
-/

namespace AssetMinifier.Keyword

open Layout (separator)

instance (keyword : List Rune) : Decidable (IsProper keyword) :=
  inferInstanceAs (Decidable (_ ∧ _))

/-- Whether a blank belongs between `before` and the rune `next` behind it: the
longest run of word runes at the end of `before` is a keyword, and `next` is
neither white space nor part of a word. -/
def isSeam (keywords : List Text) (before : List Rune) (next : Rune) : Bool :=
  isOneOf keywords (before.rtakeWhile Rune.isWord) && next.isBoundary

/-- Put one blank at each seam. -/
def openSeams (keywords : List Text) (rs : List Rune) : List Rune :=
  rs.zipIdx.flatMap fun (r, i) =>
    separator (isSeam keywords (rs.take i) r) ++ [r]

theorem detachFrom_eq_flatMap
    (keywords : List Text) (before rs : List Rune) :
    detachFrom (isOneOf keywords) (before.rtakeWhile Rune.isWord) rs =
      (rs.zipIdx before.length).flatMap fun (r, i) =>
        separator (isSeam keywords ((before ++ rs).take i) r) ++ [r] := by
  induction rs generalizing before with
  | nil => rfl
  | cons r rs ih =>
      have htail := ih (before ++ [r])
      rw [List.append_assoc, List.singleton_append, List.length_append,
        List.length_singleton] at htail
      rw [List.zipIdx_cons, List.flatMap_cons, ← htail]
      dsimp only
      rw [List.take_left, isSeam]
      by_cases hr : r.isWord
      · rw [detachFrom, if_pos hr, List.rtakeWhile_concat_pos _ _ _ hr]
        simp [Rune.isBoundary, hr, separator]
      · rw [detachFrom, if_neg hr, List.rtakeWhile_concat_neg _ _ _ hr,
          Bool.and_comm, List.append_assoc, List.singleton_append]

theorem runes_separateAll_eq_openSeams
    {keywords : List Text}
    (hkeywords : ∀ keyword ∈ keywords, IsProper keyword.runes) (t : Text) :
    (separateAll keywords t).runes = openSeams keywords t.runes := by
  rw [runes_separateAll hkeywords, openSeams]
  exact detachFrom_eq_flatMap keywords [] t.runes

theorem openSeams_congr
    {keywords others : List Text} (h : ∀ k, k ∈ others ↔ k ∈ keywords)
    (rs : List Rune) :
    openSeams others rs = openSeams keywords rs := by
  have hsame : isOneOf others = isOneOf keywords := by
    funext word
    rw [Bool.eq_iff_iff, isOneOf, isOneOf, List.contains_iff_mem,
      List.contains_iff_mem, List.mem_map, List.mem_map]
    simp only [h]
  have hseam : isSeam others = isSeam keywords := by
    funext before next
    rw [isSeam, isSeam, hsame]
  rw [openSeams, openSeams, hseam]

theorem separateAll_separateAll
    {keywords : List Text}
    (hkeywords : ∀ keyword ∈ keywords, IsProper keyword.runes) (t : Text) :
    separateAll keywords (separateAll keywords t) = separateAll keywords t := by
  apply Text.runes_injective
  have hboth : (fun w => isOneOf keywords w || isOneOf keywords w) =
      isOneOf keywords := funext fun w => Bool.or_self _
  rw [runes_separateAll hkeywords, runes_separateAll hkeywords,
    detachFrom_detachFrom (isOneOf_nil hkeywords), hboth]

/-- Separating keywords puts one blank at each seam and changes nothing else.
The result depends on the set of keywords alone, and a second round finds
nothing to do. -/
theorem separateAll_opens_seams
    {keywords : List Text}
    (hkeywords : ∀ keyword ∈ keywords, IsProper keyword.runes) (t : Text) :
    separateAll keywords t = Text.ofRunes (openSeams keywords t.runes) ∧
      (∀ others : List Text, (∀ k, k ∈ others ↔ k ∈ keywords) →
        separateAll others t = separateAll keywords t) ∧
      separateAll keywords (separateAll keywords t) =
        separateAll keywords t := by
  refine ⟨?_, ?_, separateAll_separateAll hkeywords t⟩
  · rw [← runes_separateAll_eq_openSeams hkeywords, Text.ofRunes_runes]
  · intro others hothers
    apply Text.runes_injective
    have hproper : ∀ keyword ∈ others, IsProper keyword.runes :=
      fun keyword hmem => hkeywords keyword ((hothers keyword).mp hmem)
    rw [runes_separateAll_eq_openSeams hproper,
      runes_separateAll_eq_openSeams hkeywords, openSeams_congr hothers]

/-- A keyword that ends another one, a word that ends with a keyword, and a
stray byte as the boundary. -/
theorem separateAll_opens_seams_redo :
    let text := Text.ofString "redo(undo[do" ++ [0xFF]
    separateAll ["do", "redo"] text =
        Text.ofString "redo (undo[do " ++ [0xFF] ∧
      separateAll ["redo", "do", "redo"] text =
        separateAll ["do", "redo"] text := by
  have hkeywords : ∀ keyword ∈ (["do", "redo"] : List Text),
      IsProper keyword.runes := by
    decide +kernel
  obtain ⟨hseams, hsame, -⟩ := separateAll_opens_seams hkeywords
    (Text.ofString "redo(undo[do" ++ [0xFF])
  refine ⟨?_, hsame _ (by simp [or_comm])⟩
  rw [hseams]
  decide +kernel

end AssetMinifier.Keyword
