import AssetMinifier.Minify.Script
import AssetMinifier.Proofs.Minify.Comment
import AssetMinifier.Proofs.Minify.Keyword
import AssetMinifier.Proofs.Minify.Spacing

/-!
# The layout of a minified script

All passes behind the removal of comments come to one rule for each pair of
neighbouring solid runes, `needsBlank`, and the minified script is the one
layout by that rule.  A second run removes blanks behind reserved words and
puts them back, so a minified script changes again only if it has a comment to
lose.
-/

namespace AssetMinifier.Script

open Layout (Cell Rule LaidOut cells write respace innerGap)
open Layout (opensLast separator tightGap)
open Keyword (isOneOf wordEnd wordGap)

/-- The blanks that operators leave: between runes that white space
separates, unless one of them is an operator. -/
def leavesBlank : Rule := fun _ a gap b =>
  !gap.isEmpty && !Spacing.oneOf operators a && !Spacing.oneOf operators b

/-- Where a script needs a blank: where the operators leave one, and behind a
reserved word, unless the word goes on. -/
def needsBlank : Rule := fun before a gap b =>
  leavesBlank before a gap b ||
    (!b.isWord &&
      isOneOf keywords ((before ++ [a]).rtakeWhile Rune.isWord))

/-! ## Facts about the tables -/

theorem isProper_keywords :
    ∀ keyword ∈ keywords, Keyword.IsProper keyword.runes := by
  have hchecked : ∀ keyword ∈ keywords,
      keyword.runes.isEmpty = false ∧
        keyword.runes.all Rune.isWord = true := by
    decide +kernel
  intro keyword hkeyword
  obtain ⟨hempty, hword⟩ := hchecked keyword hkeyword
  exact ⟨by simpa using hempty, by simpa using hword⟩

theorem all_not_isWord_operators :
    operators.toList.all fun c => !(Rune.char c).isWord := by
  decide +kernel

theorem isWord_eq_false_of_operator
    {r : Rune} (h : Spacing.oneOf operators r) :
    r.isWord = false := by
  simp only [Spacing.oneOf, List.any_eq_true, decide_eq_true_eq] at h
  obtain ⟨c, hc, rfl⟩ := h
  simpa using List.all_eq_true.mp all_not_isWord_operators c hc

theorem wordEnd_eq_nil_of_operator
    {past : List Cell}
    (h : opensLast (Spacing.oneOf operators) past) :
    wordEnd past = [] := by
  cases past with
  | nil => rfl
  | cons a past =>
      have ha : a.rune.isWord = false := isWord_eq_false_of_operator h
      rw [wordEnd, ha]
      rfl

/-! ## The passes as one -/

/-- The gap that the operators leave before a cell. -/
def operatorGap : List Cell → Cell → Bool :=
  tightGap (Spacing.oneOf operators) (Spacing.oneOf operators)

/-- The gap before a cell once the reserved words are separated. -/
def keywordGap (past : List Cell) (c : Cell) : Bool :=
  operatorGap past c ||
    c.rune.isBoundary && isOneOf keywords (wordEnd past)

/-- The gap before a cell of a minified script. -/
def finalGap (past : List Cell) (c : Cell) : Bool :=
  !past.isEmpty && keywordGap past c

theorem operatorGap_eq_of_isWord
    (past : List Cell) {c : Cell} (hword : c.rune.isWord) :
    operatorGap past c = c.gap ∨ wordEnd past = [] := by
  cases hopen : opensLast (Spacing.oneOf operators) past with
  | true => exact Or.inr (wordEnd_eq_nil_of_operator hopen)
  | false =>
      left
      have hclose : Spacing.oneOf operators c.rune = false := by
        cases hop : Spacing.oneOf operators c.rune with
        | false => rfl
        | true =>
            rw [isWord_eq_false_of_operator hop] at hword
            exact absurd hword Bool.false_ne_true
      simp [operatorGap, tightGap, hopen, hclose]

theorem respace_wordGap_operatorGap
    (cs : List Cell) :
    respace (wordGap (isOneOf keywords)) [] (respace operatorGap [] cs) =
      respace keywordGap [] cs := by
  apply Layout.respace_respace fun past' past => wordEnd past' = wordEnd past
  · intro past past' c hpast
    exact Keyword.wordEnd_withGap hpast (operatorGap_eq_of_isWord past)
  · intro past past' c hpast
    rw [wordGap, hpast]
    rfl
  · rfl

theorem respace_innerGap_keywordGap
    (cs : List Cell) :
    respace innerGap [] (respace keywordGap [] cs) =
      respace finalGap [] cs :=
  Layout.respace_innerGap_respace keywordGap cs

theorem minify_eq
    (s : Text) :
    minify s =
      Text.trim (Keyword.separateAll keywords
        (Text.mapRunes (Spacing.tightenAround operators)
          (Text.mapRunes Spacing.collapse
            (Comment.stripBlocks (Comment.stripLines s))))) := by
  rw [minify, passes, Pass.run_append, Pass.run_append,
    Keyword.separateAll]
  simp only [Pass.run]

/-- The passes behind the removal of comments decide the gaps once. -/
theorem runes_minify
    (s : Text) :
    (minify s).runes =
      write (respace finalGap []
        (cells (Comment.stripBlocks (Comment.stripLines s)).runes)) := by
  have hcollapsed := Layout.shows_mapRunes_collapse
    (Comment.stripBlocks (Comment.stripLines s))
  have htight := hcollapsed.mapRunes_tightenAround operators
  have hseparated := Keyword.shows_separateAll isProper_keywords htight
  rw [minify_eq, hseparated.runes_trim, ← operatorGap,
    respace_wordGap_operatorGap, respace_innerGap_keywordGap]

/-! ## The layout -/

theorem laidOut_finalGap
    (rs : List Rune) :
    LaidOut needsBlank rs (write (respace finalGap [] (cells rs))) := by
  apply Layout.laidOut_write_respace
  · intro c
    rfl
  · intro before a gap b ha hb hgap
    have hspace := Rune.isSpace_eq_false_of_isSolid hb
    rw [finalGap, keywordGap, Keyword.wordEnd_cells before ha]
    simp [operatorGap, tightGap, opensLast, needsBlank, leavesBlank,
      Rune.isBoundary, hspace]

theorem laidOut_minify
    (s : Text) :
    LaidOut needsBlank
      (Comment.stripBlocks (Comment.stripLines s)).runes
      (minify s).runes := by
  rw [runes_minify]
  exact laidOut_finalGap _

/-- The minified script is the one layout, by the rule for scripts, of the
text without its comments. -/
theorem runes_minify_eq_iff_laidOut
    (s : Text) :
    ∃ t,
      (∀ t', Comment.WithoutBlocks (Comment.stripLines s) t' ↔ t' = t) ∧
      ∀ out, (minify s).runes = out ↔ LaidOut needsBlank t.runes out := by
  refine ⟨Comment.stripBlocks (Comment.stripLines s), ?_, ?_⟩
  · intro t'
    exact Comment.withoutBlocks_iff
  · intro out
    exact (laidOut_minify s).eq_iff

/-! ## A second run -/

/-- The second run finds its reserved words where the first one left them. -/
theorem respace_keywordGap_finalGap
    (cs : List Cell) :
    respace keywordGap [] (respace finalGap [] cs) =
      respace finalGap [] cs := by
  apply Layout.respace_respace fun past' past =>
    wordEnd past' = wordEnd past ∧
      opensLast (Spacing.oneOf operators) past' =
        opensLast (Spacing.oneOf operators) past
  · intro past past' c hpast
    refine ⟨Keyword.wordEnd_withGap hpast.1 fun hword => ?_, rfl⟩
    -- Before the rest of a word no keyword gap is open.
    cases past with
    | nil => exact Or.inr rfl
    | cons a past =>
        have hgap : finalGap (a :: past) c = operatorGap (a :: past) c := by
          simp [finalGap, keywordGap, Rune.isBoundary, hword]
        rw [hgap]
        exact operatorGap_eq_of_isWord (a :: past) hword
  · intro past past' c hpast
    have hnil : isOneOf keywords [] = false :=
      Keyword.isOneOf_nil isProper_keywords
    rw [keywordGap, operatorGap, tightGap, hpast.1, hpast.2]
    cases past with
    | nil => simp [finalGap, wordEnd, hnil]
    | cons a past =>
        simp only [finalGap, keywordGap, operatorGap, tightGap,
          Cell.withGap_gap, Cell.withGap_rune]
        cases opensLast (Spacing.oneOf operators) (a :: past) with
        | true => simp
        | false =>
            cases Spacing.oneOf operators c.rune with
            | true => simp
            | false => simp
  · exact ⟨rfl, rfl⟩

/-- Gaps that were decided stay as they are. -/
theorem respace_finalGap_finalGap
    (cs : List Cell) :
    respace finalGap [] (respace finalGap [] cs) =
      respace finalGap [] cs := by
  calc
    respace finalGap [] (respace finalGap [] cs) =
        respace innerGap []
          (respace keywordGap [] (respace finalGap [] cs)) :=
      (respace_innerGap_keywordGap _).symm
    _ = respace innerGap [] (respace finalGap [] cs) := by
      rw [respace_keywordGap_finalGap]
    _ = respace innerGap []
          (respace innerGap [] (respace keywordGap [] cs)) := by
      rw [respace_innerGap_keywordGap]
    _ = respace innerGap [] (respace keywordGap [] cs) :=
      Layout.respace_innerGap_innerGap _
    _ = respace finalGap [] cs := respace_innerGap_keywordGap cs

/-- The cells of a minified script have the gaps that the rule finds. -/
theorem respace_cells_minify
    (s : Text) :
    respace finalGap [] (cells (minify s).runes) =
      cells (minify s).runes := by
  rw [runes_minify, Layout.cells_write, respace_finalGap_finalGap]

theorem write_cells_minify
    (s : Text) :
    write (cells (minify s).runes) = (minify s).runes := by
  rw [runes_minify, Layout.cells_write]

/-- A minified script is its own layout. -/
theorem laidOut_minify_self
    (s : Text) :
    LaidOut needsBlank (minify s).runes (minify s).runes := by
  have h := laidOut_finalGap (minify s).runes
  rwa [respace_cells_minify, write_cells_minify] at h

theorem minify_minify_of_no_comment
    {s : Text}
    (h : Comment.stripBlocks (Comment.stripLines (minify s)) = minify s) :
    minify (minify s) = minify s := by
  apply Text.runes_injective
  rw [runes_minify (minify s), h, respace_cells_minify, write_cells_minify]

theorem count_slash_minify
    (s : Text) :
    (minify s).count Comment.slash =
      (Comment.stripBlocks (Comment.stripLines s)).count Comment.slash := by
  have hsolid := congrArg (fun rs => (Text.ofRunes rs).count Comment.slash)
    (laidOut_minify s).solid
  simpa only [Comment.count_slash_filter_isSolid, Text.ofRunes_runes]
    using hsolid

/-- A blank beside an operator stands behind a reserved word. -/
theorem isOneOf_keywords_of_blank
    {s : Text} {before after : List Rune} {a b : Rune}
    (hrunes : (minify s).runes = before ++ a :: Rune.blank :: b :: after)
    (ha : a.isSolid) (hb : b.isSolid)
    (hoperator : Spacing.oneOf operators a ∨ Spacing.oneOf operators b) :
    isOneOf keywords ((before ++ [a]).rtakeWhile Rune.isWord) := by
  have hrule := (laidOut_minify_self s).rule_of_blank hrunes ha hb
  have hleaves : leavesBlank before a [Rune.blank] b = false := by
    rcases hoperator with h | h
    · simp [leavesBlank, h]
    · simp [leavesBlank, h]
  rw [needsBlank, hleaves, Bool.false_or, Bool.and_eq_true] at hrule
  exact hrule.2

/-! ## The operators in a second run -/

/-- A script after the pass over its operators. -/
def tightened (s : Text) : Text :=
  Pass.run (passes.take 4) s

theorem tightened_eq
    (s : Text) :
    tightened s =
      Text.mapRunes (Spacing.tightenAround operators)
        (Text.mapRunes Spacing.collapse
          (Comment.stripBlocks (Comment.stripLines s))) := by
  rw [tightened, passes]
  simp only [List.cons_append, List.nil_append, List.take_succ_cons,
    List.take_zero, Pass.run]

theorem respace_innerGap_cells_minify
    (s : Text) :
    respace innerGap [] (cells (minify s).runes) =
      cells (minify s).runes := by
  rw [runes_minify, Layout.cells_write, ← respace_innerGap_keywordGap,
    Layout.respace_innerGap_innerGap]

theorem runes_tightened_minify
    {s : Text}
    (h : Comment.stripBlocks (Comment.stripLines (minify s)) = minify s) :
    (tightened (minify s)).runes =
      write (respace operatorGap [] (cells (minify s).runes)) := by
  have hcollapse : Text.mapRunes Spacing.collapse (minify s) = minify s := by
    rw [Text.mapRunes, ← write_cells_minify, Layout.collapse_write,
      write_cells_minify, Text.ofRunes_runes]
  have htighten :
      Spacing.tightenAround operators (minify s).runes =
        write (respace operatorGap [] (cells (minify s).runes)) := by
    rw [operatorGap, ← Layout.tighten_write, write_cells_minify,
      Spacing.tightenAround]
  have hlegible :
      Text.Legible (Spacing.tightenAround operators (minify s).runes) := by
    rw [htighten, operatorGap, Layout.legible_write_respace
      (Layout.keepsStrays_tightGap (Layout.oneOf_stray operators)
        (Layout.oneOf_stray operators)), write_cells_minify]
    exact Text.legible_runes (minify s)
  rw [tightened_eq, h, hcollapse, Layout.runes_mapRunes hlegible, htighten]

/-- The operators take exactly the blanks beside them. -/
theorem laidOut_tightened_minify
    {s : Text}
    (h : Comment.stripBlocks (Comment.stripLines (minify s)) = minify s) :
    LaidOut leavesBlank (minify s).runes (tightened (minify s)).runes := by
  have hinner :
      respace operatorGap []
          (respace innerGap [] (cells (minify s).runes)) =
        respace (fun past c => !past.isEmpty && operatorGap past c) []
          (cells (minify s).runes) := by
    apply Layout.respace_respace fun past' past =>
      opensLast (Spacing.oneOf operators) past' =
        opensLast (Spacing.oneOf operators) past
    · intro past past' c hpast
      rfl
    · intro past past' c hpast
      simp [operatorGap, tightGap, innerGap, hpast, Bool.and_assoc]
    · rfl
  rw [respace_innerGap_cells_minify] at hinner
  rw [runes_tightened_minify h, hinner]
  apply Layout.laidOut_write_respace
  · intro c
    rfl
  · intro before a gap b ha hb hgap
    simp [operatorGap, tightGap, opensLast, leavesBlank]

/-- The reserved words get their blanks back. -/
theorem separateAll_tightened_minify
    {s : Text}
    (h : Comment.stripBlocks (Comment.stripLines (minify s)) = minify s) :
    Keyword.separateAll keywords (tightened (minify s)) = minify s := by
  apply Text.runes_injective
  have hdetach := Keyword.detachFrom_write_separator
    (Keyword.isOneOf_nil isProper_keywords)
    (respace operatorGap [] (cells (minify s).runes)) false
  have hfinal :
      respace keywordGap [] (cells (minify s).runes) =
        cells (minify s).runes := by
    rw [runes_minify, Layout.cells_write, respace_keywordGap_finalGap]
  simp only [separator, Bool.false_eq_true, if_false, List.append_nil]
    at hdetach
  rw [Keyword.runes_separateAll isProper_keywords,
    runes_tightened_minify h, hdetach, respace_wordGap_operatorGap, hfinal,
    write_cells_minify]

/-- A minified script stays as it is if and only if it has no comment to lose.
A blank beside an operator is one that was put back behind a reserved word; the
operators of the second run take exactly these blanks, and the reserved words
put them back where they were. -/
theorem minify_minify_eq_iff
    (s : Text) :
    (minify (minify s) = minify s ↔
      Comment.stripLines (minify s) = minify s ∧
        ¬Comment.HasBlock (minify s)) ∧
    (∀ before a b after,
      (minify s).runes = before ++ a :: Rune.blank :: b :: after →
      a.isSolid → b.isSolid →
      (Spacing.oneOf operators a ∨ Spacing.oneOf operators b) →
      isOneOf keywords ((before ++ [a]).rtakeWhile Rune.isWord)) ∧
    (minify (minify s) = minify s →
      LaidOut leavesBlank (minify s).runes (tightened (minify s)).runes ∧
        Keyword.separateAll keywords (tightened (minify s)) = minify s) := by
  have hfixed : minify (minify s) = minify s ↔
      Comment.stripLines (minify s) = minify s ∧
        ¬Comment.HasBlock (minify s) := by
    constructor
    · intro h
      have hcount := count_slash_minify (minify s)
      rw [h] at hcount
      exact Comment.count_slash_stripBlocks_stripLines_eq_iff.mp hcount.symm
    · rintro ⟨hlines, hblock⟩
      exact minify_minify_of_no_comment
        (Comment.stripBlocks_stripLines_eq_self hlines hblock)
  refine ⟨hfixed, ?_, ?_⟩
  · intro before a b after hrunes ha hb hoperator
    exact isOneOf_keywords_of_blank hrunes ha hb hoperator
  · intro h
    obtain ⟨hlines, hblock⟩ := hfixed.mp h
    have hstripped := Comment.stripBlocks_stripLines_eq_self hlines hblock
    exact ⟨laidOut_tightened_minify hstripped,
      separateAll_tightened_minify hstripped⟩

/-- The blank of `return -1` goes and comes back. -/
theorem minify_minify_return :
    tightened (minify (Text.ofString "return  - 1")) =
        Text.ofString "return-1" ∧
      Keyword.separateAll keywords
          (tightened (minify (Text.ofString "return  - 1"))) =
        minify (Text.ofString "return  - 1") := by
  have hfixed : minify (minify (Text.ofString "return  - 1")) =
      minify (Text.ofString "return  - 1") := by
    decide +kernel
  have hrun := (minify_minify_eq_iff (Text.ofString "return  - 1")).2.2
  exact ⟨by decide +kernel, (hrun hfixed).2⟩

end AssetMinifier.Script
