import AssetMinifier.Minify.Keyword
import AssetMinifier.Proofs.Layout.Shown
import AssetMinifier.Proofs.Text.Word
import Mathlib.Data.List.DropRight

/-!
# Separating keywords

The rule for one keyword scans for its occurrences.  `detachFrom` says what
comes of it in terms of whole words: a blank goes between a word that is the
keyword and a boundary rune behind it.  In this form the rules for several
keywords are one rule, whatever their order, since a blank behind a word makes
no new words and touches no other.
-/

namespace AssetMinifier.Keyword

open Layout (Cell cells gapAfter separator respace write Shows)
open Text (Legible strayFront)

/-- A keyword proper is a word that is not empty. -/
def IsProper (keyword : List Rune) : Prop :=
  keyword ≠ [] ∧ ∀ r ∈ keyword, r.isWord

/-! ## One keyword -/

/-- Put a blank between each word for which `p` holds and a boundary rune
behind it, given the part of a word that stands before. -/
def detachFrom (p : List Rune → Bool) : List Rune → List Rune → List Rune
  | _, [] => []
  | word, r :: rs =>
    if r.isWord then r :: detachFrom p (word ++ [r]) rs
    else separator (r.isBoundary && p word) ++ r :: detachFrom p [] rs

theorem detachFrom_word_append
    (p : List Rune → Bool) {word w rest : List Rune}
    (hw : ∀ r ∈ w, r.isWord) :
    detachFrom p word (w ++ rest) = w ++ detachFrom p (word ++ w) rest := by
  induction w generalizing word with
  | nil => simp
  | cons r w ih =>
      rw [List.cons_append, detachFrom, if_pos (hw r List.mem_cons_self),
        ih fun q hq => hw q (List.mem_cons_of_mem r hq), List.append_assoc,
        List.singleton_append, List.cons_append]

theorem detachFrom_cons_of_not_isWord
    (p : List Rune → Bool) (word : List Rune) {r : Rune}
    (hr : r.isWord = false) (rs : List Rune) :
    detachFrom p word (r :: rs) =
      separator (r.isBoundary && p word) ++ r :: detachFrom p [] rs := by
  simp [detachFrom, hr]

theorem follower?_eq_some_iff
    {keyword rs : List Rune} {next : Rune} :
    follower? keyword rs = some next ↔
      next.isBoundary ∧ ∃ rest, rs = keyword ++ next :: rest := by
  rw [follower?]
  by_cases h : keyword.isPrefixOf rs
  · obtain ⟨rest, rfl⟩ := List.isPrefixOf_iff_prefix.mp h
    rw [if_pos h, List.drop_left, Option.filter_eq_some_iff]
    cases rest with
    | nil => simp
    | cons r rest => simp [and_comm]
  · rw [if_neg h]
    constructor
    · intro hnone
      exact absurd hnone (by simp)
    · rintro ⟨-, rest, rfl⟩
      exact absurd (List.isPrefixOf_iff_prefix.mpr ⟨_, rfl⟩) h

theorem separateFrom_skip
    (keyword : List Rune) (prev : Option Rune)
    (u : List Rune) (r : Rune) (rs : List Rune) :
    separateFrom keyword (u.length + 1) prev (u ++ r :: rs) =
      separateFrom keyword 0 (some r) rs := by
  induction u generalizing prev with
  | nil => rfl
  | cons q u ih => exact ih (some q)

theorem isWord_blank : Rune.blank.isWord = false := by
  decide

theorem isBoundary_blank : Rune.blank.isBoundary = false := by
  decide

theorem isWord_eq_false_of_isBoundary
    {r : Rune} (h : r.isBoundary) :
    r.isWord = false := by
  simp only [Rune.isBoundary, Bool.and_eq_true, Bool.not_eq_true'] at h
  exact h.2

section

variable {keyword : List Rune} (hkeyword : IsProper keyword)
include hkeyword

/-- Where a keyword is followed by a boundary it is the rest of its word. -/
theorem eq_of_append_eq
    {w rest more : List Rune} {next : Rune}
    (hw : ∀ r ∈ w, r.isWord) (hrest : ∀ r ∈ rest.head?, r.isWord = false)
    (hnext : next.isWord = false)
    (h : w ++ rest = keyword ++ next :: more) :
    w = keyword ∧ rest = next :: more := by
  have hleft : (w ++ rest).takeWhile Rune.isWord = w := by
    rw [List.takeWhile_append_of_pos hw]
    cases rest with
    | nil => simp
    | cons r rest => simp [hrest r rfl]
  have hright :
      (keyword ++ next :: more).takeWhile Rune.isWord = keyword := by
    rw [List.takeWhile_append_of_pos hkeyword.2]
    simp [hnext]
  have hword : w = keyword := by
    rw [← hleft, h, hright]
  subst hword
  exact ⟨rfl, List.append_cancel_left h⟩

/-- An occurrence is copied, with a blank behind it unless it ends a longer
word. -/
theorem separateFrom_occurrence
    (prev : Option Rune) {next : Rune} (hnext : next.isBoundary)
    (rest : List Rune) :
    separateFrom keyword 0 prev (keyword ++ next :: rest) =
      keyword ++ (separator (!prev.any Rune.isWord) ++
        next :: separateFrom keyword 0 (some next) rest) := by
  obtain ⟨r, tail, hcons⟩ := List.exists_cons_of_ne_nil hkeyword.1
  have hfollower :
      follower? keyword (r :: (tail ++ next :: rest)) = some next := by
    rw [follower?_eq_some_iff]
    exact ⟨hnext, rest, by rw [hcons, List.cons_append]⟩
  have hskip :
      separateFrom keyword keyword.length (some r) (tail ++ next :: rest) =
        separateFrom keyword 0 (some next) rest := by
    have hlength : keyword.length = tail.length + 1 := by
      rw [hcons, List.length_cons]
    rw [hlength]
    exact separateFrom_skip keyword (some r) tail next rest
  have hstart : keyword ++ next :: rest = r :: (tail ++ next :: rest) := by
    rw [hcons, List.cons_append]
  rw [hstart, separateFrom, hfollower]
  simp only [hskip, List.append_assoc]
  cases prev.any Rune.isWord with
  | false => rfl
  | true => rfl

theorem separateFrom_cons_of_not_isWord
    (prev : Option Rune) {r : Rune} (hr : r.isWord = false)
    (rs : List Rune) :
    separateFrom keyword 0 prev (r :: rs) =
      r :: separateFrom keyword 0 (some r) rs := by
  have hnone : follower? keyword (r :: rs) = none := by
    cases h : follower? keyword (r :: rs) with
    | none => rfl
    | some next =>
        obtain ⟨-, rest, heq⟩ := follower?_eq_some_iff.mp h
        obtain ⟨q, tail, hcons⟩ := List.exists_cons_of_ne_nil hkeyword.1
        rw [hcons, List.cons_append] at heq
        have hq := hkeyword.2 q (by simp [hcons])
        rw [← (List.cons.inj heq).1, hr] at hq
        exact absurd hq Bool.false_ne_true
  rw [separateFrom, hnone]

/-- Behind a word nothing depends on the rune before. -/
theorem separateFrom_prev_irrelevant
    (prev : Option Rune) {rest : List Rune}
    (hrest : ∀ r ∈ rest.head?, r.isWord = false) :
    separateFrom keyword 0 prev rest =
      separateFrom keyword 0 none rest := by
  cases rest with
  | nil => rfl
  | cons r rest =>
      rw [separateFrom_cons_of_not_isWord hkeyword prev (hrest r rfl),
        separateFrom_cons_of_not_isWord hkeyword none (hrest r rfl)]

/-- The rest of a word is copied. -/
theorem separateFrom_inside_word
    {prev : Option Rune} (hprev : prev.any Rune.isWord)
    {w rest : List Rune} (hw : ∀ r ∈ w, r.isWord)
    (hrest : ∀ r ∈ rest.head?, r.isWord = false) :
    separateFrom keyword 0 prev (w ++ rest) =
      w ++ separateFrom keyword 0 none rest := by
  induction w generalizing prev with
  | nil => exact separateFrom_prev_irrelevant hkeyword prev hrest
  | cons r w ih =>
      cases h : follower? keyword (r :: w ++ rest) with
      | none =>
          rw [List.cons_append] at h ⊢
          rw [separateFrom, h]
          have hr : (some r).any Rune.isWord := hw r List.mem_cons_self
          exact congrArg (r :: ·)
            (ih hr fun q hq => hw q (List.mem_cons_of_mem r hq))
      | some next =>
          obtain ⟨hnext, more, heq⟩ := follower?_eq_some_iff.mp h
          have hword := isWord_eq_false_of_isBoundary hnext
          obtain ⟨hw', rfl⟩ := eq_of_append_eq hkeyword hw hrest hword heq
          rw [hw', separateFrom_occurrence hkeyword prev hnext, hprev,
            separateFrom_cons_of_not_isWord hkeyword none hword]
          rfl

/-- At the start of a word, the word is compared as a whole. -/
theorem separateFrom_word
    {prev : Option Rune} (hprev : prev.any Rune.isWord = false)
    {w rest : List Rune} (hw : ∀ r ∈ w, r.isWord)
    (hrest : ∀ r ∈ rest.head?, r.isWord = false) :
    separateFrom keyword 0 prev (w ++ rest) =
      w ++ (separator (rest.head?.any Rune.isBoundary && w == keyword) ++
        separateFrom keyword 0 none rest) := by
  cases h : follower? keyword (w ++ rest) with
  | some next =>
      obtain ⟨hnext, more, heq⟩ := follower?_eq_some_iff.mp h
      have hword := isWord_eq_false_of_isBoundary hnext
      obtain ⟨rfl, rfl⟩ := eq_of_append_eq hkeyword hw hrest hword heq
      rw [separateFrom_occurrence hkeyword prev hnext, hprev,
        separateFrom_cons_of_not_isWord hkeyword none hword]
      simp [hnext]
  | none =>
      have hseparator :
          (rest.head?.any Rune.isBoundary && w == keyword) = false := by
        rw [← Bool.not_eq_true]
        intro htrue
        rw [Bool.and_eq_true, beq_iff_eq] at htrue
        obtain ⟨hboundary, rfl⟩ := htrue
        cases rest with
        | nil => simp at hboundary
        | cons next rest =>
            have hsome : follower? w (w ++ next :: rest) = some next :=
              follower?_eq_some_iff.mpr ⟨hboundary, rest, rfl⟩
            rw [h] at hsome
            exact absurd hsome (by simp)
      rw [hseparator]
      cases w with
      | nil => exact separateFrom_prev_irrelevant hkeyword prev hrest
      | cons r w =>
          rw [List.cons_append] at h ⊢
          rw [separateFrom, h]
          have hr : (some r).any Rune.isWord := hw r List.mem_cons_self
          exact congrArg (r :: ·) (separateFrom_inside_word hkeyword hr
            (fun q hq => hw q (List.mem_cons_of_mem r hq)) hrest)

/-- The rule for a keyword detaches the words that are the keyword. -/
theorem separateFrom_eq_detachFrom
    {prev : Option Rune} (hprev : prev.any Rune.isWord = false)
    (rs : List Rune) :
    separateFrom keyword 0 prev rs =
      detachFrom (fun w => w == keyword) [] rs := by
  have hw : ∀ r ∈ rs.takeWhile Rune.isWord, r.isWord :=
    fun r hr => List.mem_takeWhile_imp hr
  have hsplit := List.takeWhile_append_dropWhile (p := Rune.isWord) (l := rs)
  cases hrest : rs.dropWhile Rune.isWord with
  | nil =>
      rw [hrest] at hsplit
      rw [← hsplit, separateFrom_word hkeyword hprev hw (by simp),
        detachFrom_word_append _ hw]
      rfl
  | cons r rest =>
      have hr : r.isWord = false := by
        have hhead := List.head?_dropWhile_not Rune.isWord rs
        rw [hrest] at hhead
        simpa using hhead
      have hends : ∀ q ∈ (r :: rest).head?, q.isWord = false := by
        intro q hq
        rw [← Option.some.inj hq]
        exact hr
      have hshorter : rest.length < rs.length := by
        rw [← hsplit, hrest, List.length_append, List.length_cons]
        omega
      have hprev' : (some r).any Rune.isWord = false := hr
      have ih := separateFrom_eq_detachFrom hprev' rest
      rw [hrest] at hsplit
      rw [← hsplit, separateFrom_word hkeyword hprev hw hends,
        detachFrom_word_append _ hw,
        separateFrom_cons_of_not_isWord hkeyword none hr,
        detachFrom_cons_of_not_isWord _ _ hr, ih]
      rfl
termination_by rs.length

end

/-! ## Several keywords -/

theorem detachFrom_false
    (word rs : List Rune) :
    detachFrom (fun _ => false) word rs = rs := by
  induction rs generalizing word with
  | nil => rfl
  | cons r rs ih =>
      by_cases hr : r.isWord
      · rw [detachFrom, if_pos hr, ih]
      · rw [detachFrom, if_neg hr, ih, Bool.and_false]
        rfl

/-- Detaching twice detaches the words of both kinds. -/
theorem detachFrom_detachFrom
    {p q : List Rune → Bool} (hq : q [] = false) (word rs : List Rune) :
    detachFrom q word (detachFrom p word rs) =
      detachFrom (fun w => p w || q w) word rs := by
  induction rs generalizing word with
  | nil => rfl
  | cons r rs ih =>
      cases hr : r.isWord with
      | true =>
          rw [detachFrom, detachFrom, if_pos hr, if_pos hr, detachFrom,
            if_pos hr, ih]
      | false =>
          rw [detachFrom_cons_of_not_isWord p word hr,
            detachFrom_cons_of_not_isWord _ word hr]
          cases hp : r.isBoundary && p word with
          | false =>
              change detachFrom q word (r :: detachFrom p [] rs) = _
              rw [detachFrom_cons_of_not_isWord q word hr, ih,
                Bool.and_or_distrib_left, hp, Bool.false_or]
          | true =>
              -- The blank of the first round ends the word for the second.
              change detachFrom q word
                (Rune.blank :: r :: detachFrom p [] rs) = _
              rw [detachFrom_cons_of_not_isWord q word isWord_blank,
                detachFrom_cons_of_not_isWord q [] hr, ih, isBoundary_blank,
                hq, Bool.and_false, Bool.and_or_distrib_left, hp,
                Bool.true_or]
              rfl

theorem strayFront_detachFrom
    {p : List Rune → Bool} (hp : p [] = false) (rs : List Rune) :
    strayFront (detachFrom p [] rs) = strayFront rs := by
  induction rs with
  | nil => rfl
  | cons r rs ih =>
      cases r with
      | stray b =>
          have hb : (Rune.stray b).isWord = false := rfl
          rw [detachFrom_cons_of_not_isWord p [] hb, hp, Bool.and_false]
          exact congrArg (b :: ·) ih
      | char c =>
          cases hc : (Rune.char c).isWord with
          | true =>
              rw [detachFrom, if_pos hc]
              rfl
          | false =>
              rw [detachFrom_cons_of_not_isWord p [] hc]
              exact Layout.strayFront_separator_char _ c _

theorem legible_detachFrom
    {p : List Rune → Bool} (hp : p [] = false) (word rs : List Rune) :
    Legible (detachFrom p word rs) ↔ Legible rs := by
  induction rs generalizing word with
  | nil => rfl
  | cons r rs ih =>
      cases r with
      | stray b =>
          have hb : (Rune.stray b).isWord = false := rfl
          rw [detachFrom_cons_of_not_isWord p word hb,
            Layout.legible_separator_append, Text.legible_stray_cons,
            Text.legible_stray_cons, strayFront_detachFrom hp, ih]
      | char c =>
          rw [Text.legible_char_cons]
          cases hc : (Rune.char c).isWord with
          | true =>
              rw [detachFrom, if_pos hc, Text.legible_char_cons, ih]
          | false =>
              rw [detachFrom_cons_of_not_isWord p word hc,
                Layout.legible_separator_append, Text.legible_char_cons, ih]

/-- Whether a word is one of a list of keywords. -/
def isOneOf (keywords : List Text) (word : List Rune) : Bool :=
  (keywords.map Text.runes).contains word

theorem isOneOf_nil
    {keywords : List Text}
    (hkeywords : ∀ keyword ∈ keywords, IsProper keyword.runes) :
    isOneOf keywords [] = false := by
  rw [isOneOf, ← Bool.not_eq_true, List.contains_iff_mem, List.mem_map]
  rintro ⟨keyword, hkeyword, hnil⟩
  exact (hkeywords keyword hkeyword).1 hnil

theorem runes_separate
    {keyword : Text} (hkeyword : IsProper keyword.runes) (t : Text) :
    (separate keyword t).runes =
      detachFrom (fun w => w == keyword.runes) [] t.runes := by
  have hdetach :
      separateFrom keyword.runes 0 none t.runes =
        detachFrom (fun w => w == keyword.runes) [] t.runes :=
    separateFrom_eq_detachFrom hkeyword rfl t.runes
  have hnil : ([] == keyword.runes) = false := by
    simpa using hkeyword.1.symm
  have hlegible : Legible (separateFrom keyword.runes 0 none t.runes) := by
    rw [hdetach]
    exact (legible_detachFrom hnil [] t.runes).mpr (Text.legible_runes t)
  rw [separate, Layout.runes_mapRunes hlegible, hdetach]

/-- The rules for a list of keywords detach the words that are one of them. -/
theorem runes_separateAll
    {keywords : List Text}
    (hkeywords : ∀ keyword ∈ keywords, IsProper keyword.runes) (t : Text) :
    (separateAll keywords t).runes =
      detachFrom (isOneOf keywords) [] t.runes := by
  induction keywords generalizing t with
  | nil => exact (detachFrom_false [] t.runes).symm
  | cons keyword keywords ih =>
      have hfirst := hkeywords keyword List.mem_cons_self
      have hothers : ∀ other ∈ keywords, IsProper other.runes :=
        fun other hother => hkeywords other (List.mem_cons_of_mem _ hother)
      have hstep : separateAll (keyword :: keywords) t =
          separateAll keywords (separate keyword t) := rfl
      rw [hstep, ih hothers, runes_separate hfirst,
        detachFrom_detachFrom (isOneOf_nil hothers)]
      rfl

/-! ## Words of cells -/

/-- The word that ends with the last of the given cells, which are in reverse
order. -/
def wordEnd : List Cell → List Rune
  | [] => []
  | c :: past =>
    if c.rune.isWord then (if c.gap then [] else wordEnd past) ++ [c.rune]
    else []

/-- A gap may change inside a word only where no word stands before it. -/
theorem wordEnd_withGap
    {past past' : List Cell} {c : Cell} {gap : Bool}
    (hpast : wordEnd past' = wordEnd past)
    (hgap : c.rune.isWord → gap = c.gap ∨ wordEnd past = []) :
    wordEnd (c.withGap gap :: past') = wordEnd (c :: past) := by
  rw [wordEnd, wordEnd, Cell.withGap_rune, Cell.withGap_gap, hpast]
  by_cases hword : c.rune.isWord
  · rcases hgap hword with hsame | hnil
    · rw [hsame]
    · rw [hnil, ite_self, ite_self]
  · rw [if_neg hword, if_neg hword]

/-- The gap before a cell once the words for which `p` holds are detached. -/
def wordGap (p : List Rune → Bool) (past : List Cell) (c : Cell) : Bool :=
  c.gap || c.rune.isBoundary && p (wordEnd past)

theorem detachFrom_separator_solid
    {p : List Rune → Bool} (hp : p [] = false) (past : List Cell)
    (c : Cell) (rs : List Rune) :
    detachFrom p (wordEnd past) (separator c.gap ++ c.rune :: rs) =
      separator (wordGap p past c) ++
        c.rune :: detachFrom p (wordEnd (c :: past)) rs := by
  rw [wordGap, wordEnd]
  cases hgap : c.gap with
  | false =>
      change detachFrom p (wordEnd past) (c.rune :: rs) = _
      cases hword : c.rune.isWord with
      | true =>
          simp [detachFrom, hword, Rune.isBoundary, separator]
      | false =>
          rw [detachFrom_cons_of_not_isWord p _ hword]
          rfl
  | true =>
      change detachFrom p (wordEnd past) (Rune.blank :: c.rune :: rs) = _
      rw [detachFrom_cons_of_not_isWord p _ isWord_blank, isBoundary_blank]
      cases hword : c.rune.isWord with
      | true =>
          simp [detachFrom, hword, separator]
      | false =>
          rw [detachFrom_cons_of_not_isWord p _ hword, hp, Bool.and_false]
          rfl

theorem detachFrom_write_append
    {p : List Rune → Bool} (hp : p [] = false) (past cs : List Cell)
    (tail : List Rune) :
    detachFrom p (wordEnd past) (write cs ++ tail) =
      write (respace (wordGap p) past cs) ++
        detachFrom p (wordEnd (cs.reverse ++ past)) tail := by
  induction cs generalizing past with
  | nil => rfl
  | cons c cs ih =>
      rw [Layout.write_cons, List.append_assoc, List.cons_append,
        detachFrom_separator_solid hp past c, respace, Layout.write_cons,
        List.append_assoc, List.cons_append, List.reverse_cons,
        List.append_assoc, List.singleton_append]
      exact congrArg (separator _ ++ c.rune :: ·) (ih (c :: past))

theorem detachFrom_write_separator
    {p : List Rune → Bool} (hp : p [] = false) (cs : List Cell)
    (trailing : Bool) :
    detachFrom p [] (write cs ++ separator trailing) =
      write (respace (wordGap p) [] cs) ++ separator trailing := by
  have h := detachFrom_write_append hp [] cs (separator trailing)
  cases trailing with
  | false => exact h
  | true => exact h

/-- Separating keywords opens the gaps behind them. -/
theorem shows_separateAll
    {keywords : List Text}
    (hkeywords : ∀ keyword ∈ keywords, IsProper keyword.runes)
    {t : Text} {cs : List Cell} (h : Shows t.runes cs) :
    Shows (separateAll keywords t).runes
      (respace (wordGap (isOneOf keywords)) [] cs) := by
  obtain ⟨trailing, hrunes⟩ := h
  refine ⟨trailing, ?_⟩
  rw [runes_separateAll hkeywords, hrunes,
    detachFrom_write_separator (isOneOf_nil hkeywords)]

/-- The word that ends with a cell is the word that ends there in the runes
the cells are read from. -/
theorem wordEnd_cells
    (before : List Rune) {a : Rune} (ha : a.isSolid) :
    wordEnd (⟨gapAfter false before, a, ha⟩ :: (cells before).reverse) =
      (before ++ [a]).rtakeWhile Rune.isWord := by
  induction before using List.reverseRecOn generalizing a with
  | nil =>
      rw [List.rtakeWhile_concat]
      rfl
  | append_singleton before r ih =>
      rw [List.rtakeWhile_concat, wordEnd]
      have hgap : gapAfter false (before ++ [r]) = r.isSpace := by
        simp [gapAfter]
      by_cases hr : r.isSolid
      · have hspace := Rune.isSpace_eq_false_of_isSolid hr
        have hcells : cells (before ++ [r]) =
            cells before ++ [⟨gapAfter false before, r, hr⟩] := by
          rw [cells, Layout.cellsFrom_append,
            Layout.cellsFrom_solid_cons _ hr]
          rfl
        rw [hgap, hspace, hcells, List.reverse_append,
          List.reverse_singleton, List.singleton_append, ih hr]
        rfl
      · -- White space ends every word.
        have hspace := Rune.isSpace_of_not_isSolid hr
        have hword : ¬r.isWord = true := by
          rw [Rune.isWord_eq_false_of_isSpace hspace]
          exact Bool.false_ne_true
        rw [hgap, hspace, List.rtakeWhile_concat_neg _ _ _ hword]
        rfl

end AssetMinifier.Keyword
