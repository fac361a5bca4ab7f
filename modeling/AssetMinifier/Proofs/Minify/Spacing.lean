import AssetMinifier.Minify.Spacing
import AssetMinifier.Proofs.Layout.Shown

/-!
# The spacing passes on cells

Collapsing white space shows the cells of a text and changes none of them.
Tightening closes the gaps next to certain runes, and trimming closes the gap
before the first cell.
-/

namespace AssetMinifier.Layout

open Text (Legible strayFront)

/-! ## Collapsing -/

theorem separator_collapseFrom
    (inRun : Bool) (rs : List Rune) :
    separator inRun ++ Spacing.collapseFrom inRun rs =
      write (cellsFrom inRun rs) ++ separator (gapAfter inRun rs) := by
  induction rs generalizing inRun with
  | nil => simp [Spacing.collapseFrom, cellsFrom, gapAfter]
  | cons r rs ih =>
      rw [gapAfter_cons]
      by_cases hr : r.isSpace
      · -- White space puts the scan inside a run, whose blank is written.
        have hcollapse :
            separator inRun ++ Spacing.collapseFrom inRun (r :: rs) =
              separator true ++ Spacing.collapseFrom true rs := by
          cases inRun with
          | false => simp [Spacing.collapseFrom, hr, separator]
          | true => simp [Spacing.collapseFrom, hr, separator]
        rw [hcollapse, cellsFrom_space_cons inRun hr, ih, hr]
      · have hspace : r.isSpace = false := by
          simpa using hr
        have hsolid : r.isSolid := by
          rw [Rune.isSolid, hspace, Bool.not_false]
        have hrest : Spacing.collapseFrom false rs =
            write (cellsFrom false rs) ++ separator (gapAfter false rs) :=
          ih false
        rw [Spacing.collapseFrom, if_neg hr, hrest,
          cellsFrom_solid_cons inRun hsolid, write_cons, hspace,
          List.append_assoc, List.cons_append]

/-- Collapsed white space is a blank for each gap, and one for white space at
the end. -/
theorem collapse_eq
    (rs : List Rune) :
    Spacing.collapse rs = write (cells rs) ++ separator (gapAfter false rs) :=
  separator_collapseFrom false rs

theorem collapse_write
    (cs : List Cell) :
    Spacing.collapse (write cs) = write cs := by
  rw [collapse_eq, cells_write, gapAfter_write]
  exact List.append_nil _

theorem strayFront_write_cellsFrom
    (gap : Bool) (rs : List Rune) :
    strayFront (write (cellsFrom gap rs)) =
      if gap then [] else strayFront rs := by
  induction rs generalizing gap with
  | nil =>
      cases gap with
      | false => rfl
      | true => rfl
  | cons r rs ih =>
      cases r with
      | stray b =>
          have hsolid : (Rune.stray b).isSolid := rfl
          rw [cellsFrom_solid_cons gap hsolid, write_cons]
          cases gap with
          | false => exact congrArg (b :: ·) (ih false)
          | true => rfl
      | char c =>
          have hfront : strayFront (.char c :: rs) = [] := rfl
          rw [hfront, ite_self]
          by_cases hc : (Rune.char c).isSolid
          · rw [cellsFrom_solid_cons gap hc, write_cons]
            exact strayFront_separator_char gap c _
          · have hspace := Rune.isSpace_of_not_isSolid hc
            rw [cellsFrom_space_cons gap hspace, ih true, if_pos rfl]

theorem legible_write_cellsFrom
    (gap : Bool) (rs : List Rune) :
    Legible (write (cellsFrom gap rs)) ↔ Legible rs := by
  induction rs generalizing gap with
  | nil => rfl
  | cons r rs ih =>
      cases r with
      | stray b =>
          have hsolid : (Rune.stray b).isSolid := rfl
          rw [cellsFrom_solid_cons gap hsolid, write_cons,
            legible_separator_append, Text.legible_stray_cons,
            Text.legible_stray_cons, strayFront_write_cellsFrom, ih false,
            if_neg Bool.false_ne_true]
      | char c =>
          rw [Text.legible_char_cons]
          by_cases hc : (Rune.char c).isSolid
          · rw [cellsFrom_solid_cons gap hc, write_cons,
              legible_separator_append, Text.legible_char_cons, ih false]
          · have hspace := Rune.isSpace_of_not_isSolid hc
            rw [cellsFrom_space_cons gap hspace, ih true]

/-- Collapsing shows the cells of a text. -/
theorem shows_mapRunes_collapse
    (t : Text) :
    Shows (Text.mapRunes Spacing.collapse t).runes (cells t.runes) := by
  have hshows : Shows (Spacing.collapse t.runes) (cells t.runes) :=
    ⟨_, collapse_eq t.runes⟩
  have hlegible : Legible (Spacing.collapse t.runes) := by
    rw [hshows.legible_iff, cells, legible_write_cellsFrom]
    exact Text.legible_runes t
  rw [runes_mapRunes hlegible]
  exact hshows

/-! ## Tightening -/

/-- Whether the last of the given cells, which are in reverse order, opens. -/
def opensLast (opens : Rune → Bool) (past : List Cell) : Bool :=
  past.head?.any fun a => opens a.rune

/-- The gap that tightening leaves before a cell. -/
def tightGap (opens closes : Rune → Bool) (past : List Cell) (c : Cell) :
    Bool :=
  c.gap && !opensLast opens past && !closes c.rune

theorem firstSolid?_solid_cons
    {r : Rune} (h : r.isSolid) (rs : List Rune) :
    Spacing.firstSolid? (r :: rs) = some r := by
  have hspace := Rune.isSpace_eq_false_of_isSolid h
  simp [Spacing.firstSolid?, hspace]

theorem tightenFrom_separator_solid
    (opens closes : Rune → Bool) (afterOpen gap : Bool)
    {r : Rune} (h : r.isSolid) (rs : List Rune) :
    Spacing.tightenFrom opens closes afterOpen (separator gap ++ r :: rs) =
      separator (gap && !afterOpen && !closes r) ++
        r :: Spacing.tightenFrom opens closes (opens r) rs := by
  have hspace := Rune.isSpace_eq_false_of_isSolid h
  have hsolid (after : Bool) :
      Spacing.tightenFrom opens closes after (r :: rs) =
        r :: Spacing.tightenFrom opens closes (opens r) rs := by
    simp [Spacing.tightenFrom, hspace]
  cases gap with
  | false => exact hsolid afterOpen
  | true =>
      change Spacing.tightenFrom opens closes afterOpen
        (Rune.blank :: r :: rs) = _
      rw [Spacing.tightenFrom, if_pos Rune.isSpace_blank, firstSolid?_solid_cons h,
        hsolid]
      cases afterOpen with
      | true => rfl
      | false =>
          cases hcloses : closes r with
          | true => simp [hcloses, separator]
          | false => simp [hcloses, separator]

theorem tightenFrom_write_append
    (opens closes : Rune → Bool) (past cs : List Cell) (tail : List Rune) :
    Spacing.tightenFrom opens closes (opensLast opens past)
        (write cs ++ tail) =
      write (respace (tightGap opens closes) past cs) ++
        Spacing.tightenFrom opens closes
          (opensLast opens (cs.reverse ++ past)) tail := by
  induction cs generalizing past with
  | nil => rfl
  | cons c cs ih =>
      rw [write_cons, List.append_assoc, List.cons_append,
        tightenFrom_separator_solid opens closes _ c.gap c.solid, respace,
        write_cons, List.append_assoc, List.cons_append,
        List.reverse_cons, List.append_assoc, List.singleton_append]
      exact congrArg (separator _ ++ c.rune :: ·) (ih (c :: past))

theorem tighten_write
    (opens closes : Rune → Bool) (cs : List Cell) :
    Spacing.tighten opens closes (write cs) =
      write (respace (tightGap opens closes) [] cs) := by
  have h := tightenFrom_write_append opens closes [] cs []
  rw [List.append_nil] at h
  rw [← List.append_nil (write (respace _ _ _))]
  exact h

theorem Shows.tighten
    {opens closes : Rune → Bool} {rs : List Rune} {cs : List Cell}
    (h : Shows rs cs) :
    Shows (Spacing.tighten opens closes rs)
      (respace (tightGap opens closes) [] cs) := by
  obtain ⟨trailing, rfl⟩ := h
  have htighten :=
    tightenFrom_write_append opens closes [] cs (separator trailing)
  cases trailing with
  | false => exact ⟨false, htighten⟩
  | true =>
      -- The blank at the end goes if the last cell opens.
      cases hopen : opensLast opens (cs.reverse ++ []) with
      | false =>
          rw [hopen] at htighten
          exact ⟨true, htighten⟩
      | true =>
          rw [hopen] at htighten
          exact ⟨false, htighten⟩

/-- Tightening twice tightens around the runes of both kinds. -/
theorem respace_tightGap_tightGap
    (opens closes opens' closes' : Rune → Bool) (cs : List Cell) :
    respace (tightGap opens' closes') []
        (respace (tightGap opens closes) [] cs) =
      respace
        (tightGap (fun r => opens r || opens' r)
          (fun r => closes r || closes' r)) [] cs := by
  apply respace_respace fun past' past =>
    past'.head?.map Cell.rune = past.head?.map Cell.rune
  · intro past past' c hpast
    rfl
  · intro past past' c hpast
    have hopens (f : Rune → Bool) (ds : List Cell) :
        opensLast f ds = (ds.head?.map Cell.rune).any f := by
      rw [opensLast, Option.any_map]
    simp only [tightGap, hopens, hpast, Cell.withGap_gap, Cell.withGap_rune]
    cases past.head?.map Cell.rune with
    | none => simp [Bool.and_assoc]
    | some r =>
        simp only [Option.any_some, Bool.not_or]
        ac_rfl
  · rfl

theorem gap_eq_false_of_mem_respace_tightGap
    {opens closes : Rune → Bool} {past cs : List Cell} {c : Cell}
    (hc : c ∈ respace (tightGap opens closes) past cs)
    (hcloses : closes c.rune) :
    c.gap = false := by
  induction cs generalizing past with
  | nil => simp [respace] at hc
  | cons d cs ih =>
      rw [respace, List.mem_cons] at hc
      rcases hc with rfl | hc
      · rw [Cell.withGap_rune] at hcloses
        simp [tightGap, hcloses]
      · exact ih hc

theorem keepsStrays_tightGap
    {opens closes : Rune → Bool}
    (hopens : ∀ b, opens (.stray b) = false)
    (hcloses : ∀ b, closes (.stray b) = false) :
    KeepsStrays (tightGap opens closes) := by
  intro a past c b d ha hc
  simp [tightGap, opensLast, ha, hc, hopens, hcloses]

theorem Shows.mapRunes_tighten
    {opens closes : Rune → Bool}
    (hopens : ∀ b, opens (.stray b) = false)
    (hcloses : ∀ b, closes (.stray b) = false)
    {t : Text} {cs : List Cell} (h : Shows t.runes cs) :
    Shows (Text.mapRunes (Spacing.tighten opens closes) t).runes
      (respace (tightGap opens closes) [] cs) := by
  apply h.mapRunes h.tighten
  exact (legible_write_respace
    (keepsStrays_tightGap hopens hcloses) [] cs).mpr

theorem oneOf_stray
    (s : String) (b : UInt8) :
    Spacing.oneOf s (.stray b) = false := by
  simp [Spacing.oneOf]

theorem Shows.mapRunes_tightenAround
    (s : String) {t : Text} {cs : List Cell} (h : Shows t.runes cs) :
    Shows (Text.mapRunes (Spacing.tightenAround s) t).runes
      (respace (tightGap (Spacing.oneOf s) (Spacing.oneOf s)) [] cs) :=
  h.mapRunes_tighten (oneOf_stray s) (oneOf_stray s)

/-! ## Trimming -/

/-- Trimming closes the gap before the first cell only. -/
def innerGap (past : List Cell) (c : Cell) : Bool :=
  !past.isEmpty && c.gap

theorem respace_innerGap_cons
    (c : Cell) (cs : List Cell) :
    respace innerGap [] (c :: cs) = c.withGap false :: cs := by
  have hgap : ∀ past d, past ≠ [] → innerGap past d = d.gap := by
    intro past d hpast
    simp [innerGap, hpast]
  rw [respace, respace_congr hgap (List.cons_ne_nil c []), respace_gap]
  rfl

theorem respace_innerGap_respace
    (f : List Cell → Cell → Bool) (cs : List Cell) :
    respace innerGap [] (respace f [] cs) =
      respace (fun past c => !past.isEmpty && f past c) [] cs := by
  apply respace_respace fun past' past => past'.isEmpty = past.isEmpty
  · intro past past' c hpast
    rfl
  · intro past past' c hpast
    rw [innerGap, hpast, Cell.withGap_gap]
  · rfl

/-- Trimming once closes the gap for good. -/
theorem respace_innerGap_innerGap
    (cs : List Cell) :
    respace innerGap [] (respace innerGap [] cs) =
      respace innerGap [] cs := by
  cases cs with
  | nil => rfl
  | cons c cs =>
      rw [respace_innerGap_cons, respace_innerGap_cons]
      rfl

theorem trimStartRunes_separator_solid
    (needed : Bool) {r : Rune} (h : r.isSolid) (rs : List Rune) :
    Text.trimStartRunes (separator needed ++ r :: rs) = r :: rs := by
  have hspace := Rune.isSpace_eq_false_of_isSolid h
  cases needed with
  | false => simp [separator, Text.trimStartRunes, hspace]
  | true =>
      simp [separator, Text.trimStartRunes, hspace, Rune.isSpace_blank]

theorem separator_reverse
    (needed : Bool) :
    (separator needed).reverse = separator needed := by
  cases needed with
  | false => rfl
  | true => rfl

theorem Shows.trimRunes
    {rs : List Rune} {cs : List Cell} (h : Shows rs cs) :
    Text.trimRunes rs = write (respace innerGap [] cs) := by
  obtain ⟨trailing, rfl⟩ := h
  cases cs with
  | nil =>
      cases trailing with
      | false => rfl
      | true => rfl
  | cons c cs =>
      rw [respace_innerGap_cons, write_cons, Text.trimRunes,
        List.append_assoc, List.cons_append,
        trimStartRunes_separator_solid c.gap c.solid, ← List.cons_append]
      -- The last rune is solid, so only the blank behind it goes.
      have hwrite : write (c.withGap false :: cs) = c.rune :: write cs := by
        rw [write_cons]
        rfl
      obtain ⟨rest, r, hrest⟩ :
          ∃ rest r, c.rune :: write cs = rest ++ [r] := by
        rcases List.eq_nil_or_concat (c.rune :: write cs) with
          hnil | ⟨rest, r, hrest⟩
        · exact absurd hnil (List.cons_ne_nil _ _)
        · exact ⟨rest, r, by rw [hrest, List.concat_eq_append]⟩
      have hlast : r ∈ (write (c.withGap false :: cs)).getLast? := by
        rw [hwrite, hrest, List.getLast?_concat]
        rfl
      have hsolid : r.isSolid := isSolid_of_mem_getLast?_write hlast
      rw [hwrite, hrest, List.reverse_append, List.reverse_append,
        separator_reverse, List.reverse_singleton, List.singleton_append,
        trimStartRunes_separator_solid trailing hsolid, List.reverse_cons,
        List.reverse_reverse]

theorem keepsStrays_innerGap : KeepsStrays innerGap := by
  intro a past c b d _ _
  rfl

/-- Trimming a text that shows cells writes them without a gap before the
first. -/
theorem Shows.runes_trim
    {t : Text} {cs : List Cell} (h : Shows t.runes cs) :
    (Text.trim t).runes = write (respace innerGap [] cs) := by
  have hlegible : Legible (Text.trimRunes t.runes) := by
    rw [h.trimRunes, legible_write_respace keepsStrays_innerGap,
      ← h.legible_iff]
    exact Text.legible_runes t
  rw [Text.trim, runes_mapRunes hlegible, h.trimRunes]

end AssetMinifier.Layout
