import AssetMinifier.Minify.Stylesheet
import AssetMinifier.Proofs.Minify.Comment
import AssetMinifier.Proofs.Minify.Spacing

/-!
# The layout of a minified stylesheet

A stylesheet loses its comments and the semicolons before a closing brace.  The
minified stylesheet is the one layout of what remains, by the rule
`needsBlank`.  It changes again only if it has a comment to lose.
-/

namespace AssetMinifier.Stylesheet

open Layout (Cell Rule LaidOut cells cellsFrom write respace Shows)
open Layout (opensLast separator tightGap)
open Text (Legible strayFront)

/-- Whether the next solid rune that is no semicolon is a closing brace. -/
def endsBlock (rs : List Rune) : Bool :=
  ((rs.filter Rune.isSolid).dropWhile (· = .char ';')).head? =
    some (.char '\x7d')

/-- Drop each semicolon of a run that a closing brace follows, whatever white
space stands between them. -/
def dropClosing : List Rune → List Rune
  | [] => []
  | r :: rs =>
    if r = .char ';' && endsBlock rs then dropClosing rs
    else r :: dropClosing rs

/-- The runes behind which white space goes. -/
def opens (r : Rune) : Bool :=
  Spacing.oneOf punctuation r || Spacing.oneOf "(" r

/-- The runes before which white space goes. -/
def closes (r : Rune) : Bool :=
  Spacing.oneOf punctuation r || Spacing.oneOf ")" r

/-- Where a stylesheet needs a blank: between runes that white space
separates, unless the first opens or the second closes. -/
def needsBlank : Rule := fun _ a gap b =>
  !gap.isEmpty && !opens a && !closes b

/-! ## Semicolons before a closing brace -/

theorem endsBlock_cons_of_isSpace
    {r : Rune} (h : r.isSpace) (rs : List Rune) :
    endsBlock (r :: rs) = endsBlock rs := by
  rw [endsBlock, endsBlock,
    List.filter_cons_of_neg (Rune.not_isSolid_of_isSpace h)]

theorem endsBlock_semicolon_cons
    (rs : List Rune) :
    endsBlock (.char ';' :: rs) = endsBlock rs := by
  have hr : (Rune.char ';').isSolid = true := by decide
  rw [endsBlock, endsBlock, List.filter_cons_of_pos hr,
    List.dropWhile_cons_of_pos (by simp)]

theorem endsBlock_cons_of_ne
    {r : Rune} (hsolid : r.isSolid) (hne : r ≠ .char ';')
    (rs : List Rune) :
    endsBlock (r :: rs) = decide (r = .char '\x7d') := by
  rw [endsBlock, List.filter_cons_of_pos hsolid,
    List.dropWhile_cons_of_neg (by simpa using hne), List.head?_cons]
  simp

theorem dropClosing_semicolon_cons
    {rs : List Rune} (h : endsBlock rs) :
    dropClosing (.char ';' :: rs) = dropClosing rs := by
  rw [dropClosing, if_pos]
  simpa using h

theorem dropClosing_cons
    {r : Rune} {rs : List Rune}
    (h : ¬(r = .char ';' ∧ endsBlock rs)) :
    dropClosing (r :: rs) = r :: dropClosing rs := by
  rw [dropClosing, if_neg]
  simpa using h

theorem endsBlock_dropClosing
    (rs : List Rune) :
    endsBlock (dropClosing rs) = endsBlock rs := by
  induction rs with
  | nil => rfl
  | cons r rs ih =>
      by_cases hdrop : r = .char ';' ∧ endsBlock rs
      · obtain ⟨rfl, hends⟩ := hdrop
        rw [dropClosing_semicolon_cons hends, endsBlock_semicolon_cons, ih]
      · rw [dropClosing_cons hdrop]
        by_cases hsolid : r.isSolid
        · by_cases hr : r = .char ';'
          · rw [hr, endsBlock_semicolon_cons, endsBlock_semicolon_cons, ih]
          · rw [endsBlock_cons_of_ne hsolid hr,
              endsBlock_cons_of_ne hsolid hr]
        · have hspace := Rune.isSpace_of_not_isSolid hsolid
          rw [endsBlock_cons_of_isSpace hspace,
            endsBlock_cons_of_isSpace hspace, ih]

theorem dropClosing_dropClosing
    (rs : List Rune) :
    dropClosing (dropClosing rs) = dropClosing rs := by
  induction rs with
  | nil => rfl
  | cons r rs ih =>
      by_cases hdrop : r = .char ';' ∧ endsBlock rs
      · obtain ⟨rfl, hends⟩ := hdrop
        rw [dropClosing_semicolon_cons hends, ih]
      · have hagain : ¬(r = .char ';' ∧ endsBlock (dropClosing rs)) := by
          rwa [endsBlock_dropClosing]
        rw [dropClosing_cons hdrop, dropClosing_cons hagain, ih]

theorem length_dropClosing_le
    (rs : List Rune) :
    (dropClosing rs).length ≤ rs.length := by
  induction rs with
  | nil => exact Nat.le_refl _
  | cons r rs ih =>
      by_cases hdrop : r = .char ';' ∧ endsBlock rs
      · obtain ⟨rfl, hends⟩ := hdrop
        rw [dropClosing_semicolon_cons hends, List.length_cons]
        exact Nat.le_succ_of_le ih
      · rw [dropClosing_cons hdrop, List.length_cons, List.length_cons]
        exact Nat.succ_le_succ ih

theorem dropClosing_cons_eq_self_iff
    {r : Rune} {rs : List Rune} :
    dropClosing (r :: rs) = r :: rs ↔
      ¬(r = .char ';' ∧ endsBlock rs) ∧ dropClosing rs = rs := by
  by_cases hdrop : r = .char ';' ∧ endsBlock rs
  · obtain ⟨rfl, hends⟩ := hdrop
    rw [dropClosing_semicolon_cons hends]
    constructor
    · intro h
      have hlength := length_dropClosing_le rs
      rw [h, List.length_cons] at hlength
      omega
    · rintro ⟨hnot, -⟩
      exact absurd ⟨rfl, hends⟩ hnot
  · rw [dropClosing_cons hdrop, List.cons.injEq]
    exact ⟨fun h => ⟨hdrop, h.2⟩, fun h => ⟨rfl, h.2⟩⟩

theorem endsBlock_filter_isSolid
    (rs : List Rune) :
    endsBlock (rs.filter Rune.isSolid) = endsBlock rs := by
  rw [endsBlock, endsBlock, List.filter_filter]
  simp

/-- Whether there is a semicolon to drop depends on the solid runes only. -/
theorem dropClosing_filter_isSolid_eq_self_iff
    {rs : List Rune} :
    dropClosing (rs.filter Rune.isSolid) = rs.filter Rune.isSolid ↔
      dropClosing rs = rs := by
  induction rs with
  | nil => rfl
  | cons r rs ih =>
      by_cases hsolid : r.isSolid
      · rw [List.filter_cons_of_pos hsolid, dropClosing_cons_eq_self_iff,
          dropClosing_cons_eq_self_iff, endsBlock_filter_isSolid, ih]
      · rw [List.filter_cons_of_neg hsolid, dropClosing_cons_eq_self_iff, ih]
        refine ⟨fun h => ⟨?_, h⟩, fun h => h.2⟩
        rintro ⟨rfl, -⟩
        exact hsolid (by decide)

theorem count_slash_dropClosing
    (rs : List Rune) :
    (Text.ofRunes (dropClosing rs)).count Comment.slash =
      (Text.ofRunes rs).count Comment.slash := by
  have hcons (r : Rune) (qs : List Rune) :
      Text.ofRunes (r :: qs) = r.bytes ++ Text.ofRunes qs := rfl
  induction rs with
  | nil => rfl
  | cons r rs ih =>
      rw [hcons, List.count_append]
      by_cases hdrop : r = .char ';' ∧ endsBlock rs
      · obtain ⟨rfl, hends⟩ := hdrop
        have hbytes : (Rune.char ';').bytes.count Comment.slash = 0 := by
          decide
        rw [dropClosing_semicolon_cons hends, ih, hbytes, Nat.zero_add]
      · rw [dropClosing_cons hdrop, hcons, List.count_append, ih]

/-! ## Semicolons of runes and of cells -/

/-- Drop the cells of semicolons before a closing brace. -/
def dropCells : List Cell → List Cell
  | [] => []
  | c :: cs =>
    if c.rune = .char ';' && endsBlock (cs.map Cell.rune) then dropCells cs
    else c :: dropCells cs

theorem dropCells_semicolon_cons
    {c : Cell} {cs : List Cell} (hc : c.rune = .char ';')
    (h : endsBlock (cs.map Cell.rune)) :
    dropCells (c :: cs) = dropCells cs := by
  rw [dropCells, if_pos]
  simpa [hc] using h

theorem dropCells_cons
    {c : Cell} {cs : List Cell}
    (h : ¬(c.rune = .char ';' ∧ endsBlock (cs.map Cell.rune))) :
    dropCells (c :: cs) = c :: dropCells cs := by
  rw [dropCells, if_neg]
  simpa using h

/-- No gap stands before punctuation. -/
def Tight (cs : List Cell) : Prop :=
  ∀ c ∈ cs, closes c.rune → c.gap = false

theorem closes_semicolon : closes (.char ';') := by
  decide

theorem closes_brace : closes (.char '\x7d') := by
  decide

/-- A closing brace follows, directly or behind a run of semicolons. -/
def BraceNext (rs : List Rune) : Prop :=
  (rs.dropWhile (· = .char ';')).head? = some (.char '\x7d')

theorem dropSemicolons_semicolon_cons
    {rs : List Rune} (h : BraceNext rs) :
    dropSemicolons (.char ';' :: rs) = dropSemicolons rs := by
  rw [dropSemicolons, if_pos]
  simpa [BraceNext] using h

theorem dropSemicolons_cons
    {r : Rune} {rs : List Rune} (h : ¬(r = .char ';' ∧ BraceNext rs)) :
    dropSemicolons (r :: rs) = r :: dropSemicolons rs := by
  rw [dropSemicolons, if_neg]
  simpa [BraceNext] using h

theorem braceNext_write_iff
    {cs : List Cell} (hcs : Tight cs) (trailing : Bool) :
    BraceNext (write cs ++ separator trailing) ↔
      endsBlock (cs.map Cell.rune) := by
  induction cs with
  | nil =>
      rw [BraceNext]
      cases trailing with
      | false => decide
      | true => decide
  | cons c cs ih =>
      have hrest : Tight cs :=
        fun d hd => hcs d (List.mem_cons_of_mem c hd)
      rw [Layout.write_cons, List.append_assoc, List.cons_append,
        List.map_cons]
      by_cases hsemi : c.rune = .char ';'
      · have hgap : c.gap = false := by
          apply hcs c List.mem_cons_self
          rw [hsemi]
          exact closes_semicolon
        rw [hgap, hsemi, endsBlock_semicolon_cons, ← ih hrest]
        rfl
      · rw [endsBlock_cons_of_ne c.solid hsemi, decide_eq_true_eq]
        cases hgap : c.gap with
        | false =>
            change BraceNext (c.rune :: _) ↔ _
            rw [BraceNext, List.dropWhile_cons_of_neg (by simpa using hsemi),
              List.head?_cons, Option.some.injEq]
        | true =>
            constructor
            · intro h
              exact absurd (Option.some.inj h) (by decide)
            · intro h
              have hclosed : c.gap = false := by
                apply hcs c List.mem_cons_self
                rw [h]
                exact closes_brace
              rw [hgap] at hclosed
              exact absurd hclosed (by decide)

theorem dropSemicolons_separator_append
    (needed : Bool) (rs : List Rune) :
    dropSemicolons (separator needed ++ rs) =
      separator needed ++ dropSemicolons rs := by
  cases needed with
  | false => rfl
  | true => rfl

/-- Where no gap stands before punctuation, semicolons go with their cells. -/
theorem dropSemicolons_write
    {cs : List Cell} (hcs : Tight cs) (trailing : Bool) :
    dropSemicolons (write cs ++ separator trailing) =
      write (dropCells cs) ++ separator trailing := by
  induction cs with
  | nil =>
      cases trailing with
      | false => rfl
      | true => rfl
  | cons c cs ih =>
      have hrest : Tight cs :=
        fun d hd => hcs d (List.mem_cons_of_mem c hd)
      have hends := braceNext_write_iff hrest trailing
      rw [Layout.write_cons, List.append_assoc, List.cons_append,
        dropSemicolons_separator_append]
      by_cases hdrop : c.rune = .char ';' ∧ endsBlock (cs.map Cell.rune)
      · obtain ⟨hsemi, hbrace⟩ := hdrop
        have hgap : c.gap = false := by
          apply hcs c List.mem_cons_self
          rw [hsemi]
          exact closes_semicolon
        rw [dropCells_semicolon_cons hsemi hbrace, hgap, hsemi,
          dropSemicolons_semicolon_cons (hends.mpr hbrace), ih hrest]
        rfl
      · have hkeep : ¬(c.rune = .char ';' ∧
            BraceNext (write cs ++ separator trailing)) := by
          rwa [hends]
        rw [dropCells_cons hdrop, dropSemicolons_cons hkeep, ih hrest,
          Layout.write_cons, List.append_assoc, List.cons_append]

theorem strayFront_eq_nil_of_braceNext
    {rs : List Rune} (h : BraceNext rs) :
    strayFront rs = [] := by
  cases rs with
  | nil => rfl
  | cons r rs =>
      cases r with
      | char c => rfl
      | stray b => simp [BraceNext] at h

theorem strayFront_dropSemicolons
    (rs : List Rune) :
    strayFront (dropSemicolons rs) = strayFront rs := by
  induction rs with
  | nil => rfl
  | cons r rs ih =>
      by_cases hdrop : r = .char ';' ∧ BraceNext rs
      · obtain ⟨rfl, hbrace⟩ := hdrop
        rw [dropSemicolons_semicolon_cons hbrace, ih,
          strayFront_eq_nil_of_braceNext hbrace]
        rfl
      · rw [dropSemicolons_cons hdrop]
        cases r with
        | char c => rfl
        | stray b => exact congrArg (b :: ·) ih

theorem legible_dropSemicolons
    {rs : List Rune} (h : Legible rs) :
    Legible (dropSemicolons rs) := by
  induction rs with
  | nil => exact h
  | cons r rs ih =>
      by_cases hdrop : r = .char ';' ∧ BraceNext rs
      · obtain ⟨rfl, hbrace⟩ := hdrop
        rw [Text.legible_char_cons] at h
        rw [dropSemicolons_semicolon_cons hbrace]
        exact ih h
      · rw [dropSemicolons_cons hdrop]
        cases r with
        | char c =>
            rw [Text.legible_char_cons] at h ⊢
            exact ih h
        | stray b =>
            rw [Text.legible_stray_cons] at h ⊢
            rw [strayFront_dropSemicolons]
            exact ⟨h.1, ih h.2⟩

theorem shows_dropSemicolons
    {t : Text} {cs : List Cell} (h : Shows t.runes cs) (hcs : Tight cs) :
    Shows (Text.mapRunes dropSemicolons t).runes (dropCells cs) := by
  have hlegible := legible_dropSemicolons (Text.legible_runes t)
  obtain ⟨trailing, hrunes⟩ := h
  refine ⟨trailing, ?_⟩
  rw [Layout.runes_mapRunes hlegible, hrunes, dropSemicolons_write hcs]

/-! ## The passes as one -/

/-- The gap that punctuation and parentheses leave before a cell. -/
def punctuationGap : List Cell → Cell → Bool :=
  tightGap opens closes

/-- The gap before a cell of a minified stylesheet. -/
def finalGap (past : List Cell) (c : Cell) : Bool :=
  !past.isEmpty && punctuationGap past c

theorem respace_tightGap_parentheses
    (cs : List Cell) :
    respace (tightGap Spacing.never (Spacing.oneOf ")")) []
        (respace (tightGap (Spacing.oneOf "(") Spacing.never) []
          (respace
            (tightGap (Spacing.oneOf punctuation) (Spacing.oneOf punctuation))
            [] cs)) =
      respace punctuationGap [] cs := by
  rw [Layout.respace_tightGap_tightGap, Layout.respace_tightGap_tightGap]
  simp only [Spacing.never, Bool.or_false]
  rfl

theorem tight_respace
    (past cs : List Cell) :
    Tight (respace punctuationGap past cs) :=
  fun _ hc hcloses =>
    Layout.gap_eq_false_of_mem_respace_tightGap hc hcloses

theorem endsBlock_map_rune_respace
    (past : List Cell) (gap : Bool) (rs : List Rune) :
    endsBlock ((respace punctuationGap past (cellsFrom gap rs)).map
      Cell.rune) = endsBlock rs := by
  rw [Layout.map_rune_respace, Layout.map_rune_cellsFrom,
    endsBlock_filter_isSolid]

/-- The first solid rune that stays behind dropped semicolons is the closing
brace. -/
theorem eq_brace_of_endsBlock
    {r : Rune} {rs : List Rune} (hsolid : r.isSolid)
    (hkeep : ¬(r = .char ';' ∧ endsBlock rs)) (h : endsBlock (r :: rs)) :
    r = .char '\x7d' := by
  by_cases hsemi : r = .char ';'
  · rw [hsemi, endsBlock_semicolon_cons] at h
    exact absurd ⟨hsemi, h⟩ hkeep
  · rw [endsBlock_cons_of_ne hsolid hsemi] at h
    simpa using h

theorem punctuationGap_brace
    (past : List Cell) {c : Cell} (hc : c.rune = .char '\x7d') :
    punctuationGap past c = false := by
  simp [punctuationGap, tightGap, hc, closes_brace]

/-- Semicolons may be dropped before the gaps are decided.  Behind a dropped
semicolon the two orders see different cells, but only until the closing brace,
which has no gap in either. -/
theorem respace_cellsFrom_dropClosing
    {past past' : List Cell} {gap gap' : Bool} {rs : List Rune}
    (h : gap = gap' ∧ opensLast opens past = opensLast opens past' ∨
      endsBlock rs) :
    respace punctuationGap past (cellsFrom gap (dropClosing rs)) =
      dropCells (respace punctuationGap past' (cellsFrom gap' rs)) := by
  induction rs generalizing past past' gap gap' with
  | nil => rfl
  | cons r rs ih =>
      by_cases hsolid : r.isSolid
      · rw [Layout.cellsFrom_solid_cons gap' hsolid, respace]
        have hends := endsBlock_map_rune_respace
          (⟨gap', r, hsolid⟩ :: past') false rs
        by_cases hdrop : r = .char ';' ∧ endsBlock rs
        · obtain ⟨rfl, hbrace⟩ := hdrop
          rw [dropClosing_semicolon_cons hbrace,
            dropCells_semicolon_cons rfl (by rw [hends]; exact hbrace)]
          exact ih (Or.inr hbrace)
        · have hgap : punctuationGap past ⟨gap, r, hsolid⟩ =
              punctuationGap past' ⟨gap', r, hsolid⟩ := by
            rcases h with ⟨rfl, hopens⟩ | hbefore
            · rw [punctuationGap, tightGap, tightGap, hopens]
            · have hbrace := eq_brace_of_endsBlock hsolid hdrop hbefore
              rw [punctuationGap_brace past hbrace,
                punctuationGap_brace past' hbrace]
          have hrest :
              respace punctuationGap (⟨gap, r, hsolid⟩ :: past)
                  (cellsFrom false (dropClosing rs)) =
                dropCells (respace punctuationGap
                  (⟨gap', r, hsolid⟩ :: past') (cellsFrom false rs)) :=
            ih (Or.inl ⟨rfl, rfl⟩)
          rw [dropClosing_cons hdrop, Layout.cellsFrom_solid_cons gap hsolid,
            respace, dropCells_cons (by rw [hends]; exact hdrop), hrest,
            hgap]
          rfl
      · have hspace := Rune.isSpace_of_not_isSolid hsolid
        have hkeep : ¬(r = .char ';' ∧ endsBlock rs) := by
          rintro ⟨rfl, -⟩
          exact hsolid (by decide)
        rw [dropClosing_cons hkeep, Layout.cellsFrom_space_cons gap hspace,
          Layout.cellsFrom_space_cons gap' hspace]
        apply ih
        rcases h with ⟨-, hopens⟩ | hends
        · exact Or.inl ⟨rfl, hopens⟩
        · rw [endsBlock_cons_of_isSpace hspace] at hends
          exact Or.inr hends

theorem minify_eq
    (s : Text) :
    minify s =
      Text.trim (Text.mapRunes dropSemicolons
        (Text.mapRunes (Spacing.tighten Spacing.never (Spacing.oneOf ")"))
          (Text.mapRunes (Spacing.tighten (Spacing.oneOf "(") Spacing.never)
            (Text.mapRunes (Spacing.tightenAround punctuation)
              (Text.mapRunes Spacing.collapse
                (Comment.stripBlocks s)))))) := by
  rw [minify, passes]
  simp only [Pass.run]

/-- The passes behind the removal of comments drop semicolons and decide the
gaps once. -/
theorem runes_minify
    (s : Text) :
    (minify s).runes =
      write (respace finalGap []
        (cells (dropClosing (Comment.stripBlocks s).runes))) := by
  have hnever : ∀ b, Spacing.never (.stray b) = false := fun _ => rfl
  have hcollapsed := Layout.shows_mapRunes_collapse (Comment.stripBlocks s)
  have hpunctuation := hcollapsed.mapRunes_tightenAround punctuation
  have hopening := hpunctuation.mapRunes_tighten
    (Layout.oneOf_stray "(") hnever
  have hclosing := hopening.mapRunes_tighten hnever (Layout.oneOf_stray ")")
  rw [respace_tightGap_parentheses] at hclosing
  have hdropped := shows_dropSemicolons hclosing (tight_respace [] _)
  rw [minify_eq, hdropped.runes_trim, cells,
    ← respace_cellsFrom_dropClosing (Or.inl ⟨rfl, rfl⟩),
    Layout.respace_innerGap_respace]
  rfl

/-! ## The layout -/

theorem laidOut_finalGap
    (rs : List Rune) :
    LaidOut needsBlank rs (write (respace finalGap [] (cells rs))) := by
  apply Layout.laidOut_write_respace
  · intro c
    rfl
  · intro before a gap b ha hb hgap
    simp [finalGap, punctuationGap, tightGap, opensLast, needsBlank]

theorem laidOut_minify
    (s : Text) :
    LaidOut needsBlank (dropClosing (Comment.stripBlocks s).runes)
      (minify s).runes := by
  rw [runes_minify]
  exact laidOut_finalGap _

/-- The minified stylesheet is the one layout, by the rule for stylesheets, of
the text without its comments and without the semicolons before a closing
brace. -/
theorem runes_minify_eq_iff_laidOut_dropClosing
    (s : Text) :
    ∃ t,
      (∀ t', Comment.WithoutBlocks s t' ↔ t' = t) ∧
      ∀ out, (minify s).runes = out ↔
        LaidOut needsBlank (dropClosing t.runes) out := by
  refine ⟨Comment.stripBlocks s, ?_, ?_⟩
  · intro t'
    exact Comment.withoutBlocks_iff
  · intro out
    exact (laidOut_minify s).eq_iff

/-! ## A second run -/

theorem respace_finalGap_finalGap
    (cs : List Cell) :
    respace finalGap [] (respace finalGap [] cs) =
      respace finalGap [] cs := by
  apply Layout.respace_respace fun past' past =>
    past'.isEmpty = past.isEmpty ∧
      opensLast opens past' = opensLast opens past
  · intro past past' c hpast
    exact ⟨rfl, rfl⟩
  · intro past past' c hpast
    simp only [finalGap, punctuationGap, tightGap, hpast.1, hpast.2,
      Cell.withGap_gap, Cell.withGap_rune]
    cases past.isEmpty with
    | true => rfl
    | false =>
        cases opensLast opens past with
        | true => simp
        | false => simp
  · exact ⟨rfl, rfl⟩

/-- A minified stylesheet has no semicolon before a closing brace. -/
theorem dropClosing_minify
    (s : Text) :
    dropClosing (minify s).runes = (minify s).runes := by
  rw [← dropClosing_filter_isSolid_eq_self_iff, (laidOut_minify s).solid,
    dropClosing_filter_isSolid_eq_self_iff, dropClosing_dropClosing]

theorem minify_minify_of_no_comment
    {s : Text} (h : Comment.stripBlocks (minify s) = minify s) :
    minify (minify s) = minify s := by
  apply Text.runes_injective
  rw [runes_minify (minify s), h, dropClosing_minify, runes_minify,
    Layout.cells_write, respace_finalGap_finalGap]

theorem count_slash_minify
    (s : Text) :
    (minify s).count Comment.slash =
      (Comment.stripBlocks s).count Comment.slash := by
  have hsolid := congrArg (fun rs => (Text.ofRunes rs).count Comment.slash)
    (laidOut_minify s).solid
  simpa only [Comment.count_slash_filter_isSolid, count_slash_dropClosing,
    Text.ofRunes_runes] using hsolid

/-- A minified stylesheet stays as it is if and only if it has no complete
comment. -/
theorem minify_minify_eq_iff_not_hasBlock
    (s : Text) :
    minify (minify s) = minify s ↔ ¬Comment.HasBlock (minify s) := by
  constructor
  · intro h hblock
    have hcount := count_slash_minify (minify s)
    have hlt :=
      (Comment.withoutBlocks_stripBlocks (minify s)).count_slash_lt hblock
    rw [h] at hcount
    omega
  · intro hblock
    exact minify_minify_of_no_comment
      (Comment.stripBlocks_of_not_hasBlock hblock)

end AssetMinifier.Stylesheet
