import AssetMinifier.Proofs.Layout.Basic
import AssetMinifier.Proofs.Text.Legible

/-!
# Cells

A sequence of runes is seen here as its solid runes, each with the knowledge
of whether white space stands before it.  A pass over the runes is then a
function on these cells; most passes only decide anew which cells have a gap,
and `respace` is that kind of function.  Passes that follow one another become
one, as `respace_respace` says, and what they write is a layout.
-/

namespace AssetMinifier.Layout

/-- A solid rune, and whether white space stands before it. -/
@[ext] structure Cell where
  gap : Bool
  rune : Rune
  solid : rune.isSolid

namespace Cell

/-- The cell of the same rune with another gap. -/
def withGap (c : Cell) (gap : Bool) : Cell :=
  { c with gap := gap }

@[simp] theorem withGap_gap (c : Cell) (gap : Bool) :
    (c.withGap gap).gap = gap :=
  rfl

@[simp] theorem withGap_rune (c : Cell) (gap : Bool) :
    (c.withGap gap).rune = c.rune :=
  rfl

@[simp] theorem withGap_self (c : Cell) :
    c.withGap c.gap = c :=
  rfl

/-- The runes of a cell, with a blank for the gap. -/
def runes (c : Cell) : List Rune :=
  separator c.gap ++ [c.rune]

end Cell

/-! ## Reading cells and writing them -/

/-- The cells of a sequence of runes, given whether white space stands before
it. -/
def cellsFrom (gap : Bool) : List Rune → List Cell
  | [] => []
  | r :: rs =>
    if h : r.isSolid then ⟨gap, r, h⟩ :: cellsFrom false rs
    else cellsFrom true rs

/-- The cells of a sequence of runes. -/
def cells (rs : List Rune) : List Cell :=
  cellsFrom false rs

/-- Write cells as runes. -/
def write (cs : List Cell) : List Rune :=
  cs.flatMap Cell.runes

@[simp] theorem write_nil : write [] = [] :=
  rfl

theorem write_cons
    (c : Cell) (cs : List Cell) :
    write (c :: cs) = separator c.gap ++ c.rune :: write cs := by
  simp [write, Cell.runes]

theorem write_append
    (cs ds : List Cell) :
    write (cs ++ ds) = write cs ++ write ds := by
  simp [write]

theorem cellsFrom_solid_cons
    (gap : Bool) {r : Rune} (h : r.isSolid) (rs : List Rune) :
    cellsFrom gap (r :: rs) = ⟨gap, r, h⟩ :: cellsFrom false rs := by
  rw [cellsFrom, dif_pos h]

theorem cellsFrom_space_cons
    (gap : Bool) {r : Rune} (h : r.isSpace) (rs : List Rune) :
    cellsFrom gap (r :: rs) = cellsFrom true rs := by
  rw [cellsFrom, dif_neg (Rune.not_isSolid_of_isSpace h)]

/-- Whether white space stands behind a sequence of runes, given whether it
stands before it. -/
def gapAfter (gap : Bool) (rs : List Rune) : Bool :=
  (rs.getLast?.map Rune.isSpace).getD gap

theorem gapAfter_cons
    (gap : Bool) (r : Rune) (rs : List Rune) :
    gapAfter gap (r :: rs) = gapAfter r.isSpace rs := by
  rw [gapAfter, gapAfter, List.getLast?_cons]
  cases rs.getLast? with
  | none => rfl
  | some q => rfl

theorem cellsFrom_append
    (gap : Bool) (rs qs : List Rune) :
    cellsFrom gap (rs ++ qs) =
      cellsFrom gap rs ++ cellsFrom (gapAfter gap rs) qs := by
  induction rs generalizing gap with
  | nil => rfl
  | cons r rs ih =>
      rw [List.cons_append, gapAfter_cons]
      by_cases hr : r.isSolid
      · have hspace := Rune.isSpace_eq_false_of_isSolid hr
        rw [cellsFrom_solid_cons gap hr, cellsFrom_solid_cons gap hr, ih,
          hspace, List.cons_append]
      · have hspace := Rune.isSpace_of_not_isSolid hr
        rw [cellsFrom_space_cons gap hspace, cellsFrom_space_cons gap hspace,
          ih, hspace]

theorem cellsFrom_of_isSpace
    (gap : Bool) {spaces : List Rune} (h : ∀ r ∈ spaces, r.isSpace) :
    cellsFrom gap spaces = [] := by
  induction spaces generalizing gap with
  | nil => rfl
  | cons r spaces ih =>
      rw [cellsFrom_space_cons gap (h r List.mem_cons_self)]
      exact ih true fun q hq => h q (List.mem_cons_of_mem r hq)

theorem gapAfter_of_isSpace
    {spaces : List Rune} (h : ∀ r ∈ spaces, r.isSpace) :
    gapAfter false spaces = !spaces.isEmpty := by
  rcases List.eq_nil_or_concat spaces with rfl | ⟨spaces, r, rfl⟩
  · rfl
  · rw [List.concat_eq_append] at h ⊢
    rw [gapAfter, List.getLast?_concat, Option.map_some, h r (by simp)]
    simp

/-- The cells around the white space between two solid runes. -/
theorem cells_split
    {before gap after : List Rune} {a b : Rune}
    (ha : a.isSolid) (hb : b.isSolid) (hgap : ∀ r ∈ gap, r.isSpace) :
    cells (before ++ a :: (gap ++ b :: after)) =
      cells before ++ ⟨gapAfter false before, a, ha⟩ ::
        ⟨!gap.isEmpty, b, hb⟩ :: cells after := by
  rw [cells, cellsFrom_append, cellsFrom_solid_cons _ ha, cellsFrom_append,
    cellsFrom_of_isSpace false hgap, List.nil_append,
    gapAfter_of_isSpace hgap, cellsFrom_solid_cons _ hb]
  rfl

theorem map_rune_cellsFrom
    (gap : Bool) (rs : List Rune) :
    (cellsFrom gap rs).map Cell.rune = rs.filter Rune.isSolid := by
  induction rs generalizing gap with
  | nil => rfl
  | cons r rs ih =>
      by_cases hr : r.isSolid
      · rw [cellsFrom_solid_cons gap hr, List.filter_cons_of_pos hr,
          List.map_cons, ih]
      · have hspace := Rune.isSpace_of_not_isSolid hr
        rw [cellsFrom_space_cons gap hspace, List.filter_cons_of_neg hr, ih]

theorem filter_isSolid_write
    (cs : List Cell) :
    (write cs).filter Rune.isSolid = cs.map Cell.rune := by
  induction cs with
  | nil => rfl
  | cons c cs ih =>
      rw [write_cons, List.filter_append, filter_isSolid_separator,
        List.filter_cons_of_pos c.solid, ih, List.nil_append, List.map_cons]

/-- Written cells are read back. -/
theorem cells_write
    (cs : List Cell) :
    cells (write cs) = cs := by
  induction cs with
  | nil => rfl
  | cons c cs ih =>
      rw [write_cons]
      cases hgap : c.gap with
      | false =>
          change cellsFrom false (c.rune :: write cs) = c :: cs
          rw [cellsFrom_solid_cons false c.solid, ← cells, ih, ← hgap]
      | true =>
          change cellsFrom false (Rune.blank :: c.rune :: write cs) = c :: cs
          rw [cellsFrom_space_cons false Rune.isSpace_blank,
            cellsFrom_solid_cons true c.solid, ← cells, ih, ← hgap]

/-- Written cells end with a solid rune. -/
theorem isSolid_of_mem_getLast?_write
    {cs : List Cell} {r : Rune} (h : r ∈ (write cs).getLast?) :
    r.isSolid := by
  rcases List.eq_nil_or_concat cs with rfl | ⟨cs, c, rfl⟩
  · simp at h
  · rw [List.concat_eq_append, write_append, write_cons, write_nil,
      ← List.append_assoc, List.getLast?_concat] at h
    rw [← Option.some.inj h]
    exact c.solid

theorem gapAfter_write
    (cs : List Cell) :
    gapAfter false (write cs) = false := by
  rw [gapAfter]
  cases h : (write cs).getLast? with
  | none => rfl
  | some r =>
      exact Rune.isSpace_eq_false_of_isSolid
        (isSolid_of_mem_getLast?_write h)

/-! ## Deciding gaps anew -/

/-- Give each cell the gap that `f` finds for it, from the cells before it in
reverse order and the cell itself. -/
def respace (f : List Cell → Cell → Bool) : List Cell → List Cell → List Cell
  | _, [] => []
  | past, c :: cs => c.withGap (f past c) :: respace f (c :: past) cs

variable {f g h : List Cell → Cell → Bool}

@[simp] theorem map_rune_respace
    (past cs : List Cell) :
    (respace f past cs).map Cell.rune = cs.map Cell.rune := by
  induction cs generalizing past with
  | nil => rfl
  | cons c cs ih => simp [respace, ih]

theorem respace_append
    (past cs ds : List Cell) :
    respace f past (cs ++ ds) =
      respace f past cs ++ respace f (cs.reverse ++ past) ds := by
  induction cs generalizing past with
  | nil => rfl
  | cons c cs ih => simp [respace, ih]

/-- Two rounds of deciding gaps are one, if `g` finds in what `f` left the gap
that `h` finds in the original.  The relation `R` carries what `g` may rely on
from one cell to the next. -/
theorem respace_respace
    (R : List Cell → List Cell → Prop)
    (hstep : ∀ past past' c, R past' past →
      R (c.withGap (f past c) :: past') (c :: past))
    (hgap : ∀ past past' c, R past' past →
      g past' (c.withGap (f past c)) = h past c)
    {past past' : List Cell} (hpast : R past' past) (cs : List Cell) :
    respace g past' (respace f past cs) = respace h past cs := by
  induction cs generalizing past past' with
  | nil => rfl
  | cons c cs ih =>
      rw [respace, respace, respace, hgap past past' c hpast,
        ih (hstep past past' c hpast)]
      rfl

theorem respace_congr
    (hgap : ∀ past c, past ≠ [] → f past c = g past c)
    {past : List Cell} (hpast : past ≠ []) (cs : List Cell) :
    respace f past cs = respace g past cs := by
  induction cs generalizing past with
  | nil => rfl
  | cons c cs ih =>
      rw [respace, respace, hgap past c hpast, ih (List.cons_ne_nil c past)]

theorem respace_gap
    (past cs : List Cell) :
    respace (fun _ c => c.gap) past cs = cs := by
  induction cs generalizing past with
  | nil => rfl
  | cons c cs ih => rw [respace, ih, Cell.withGap_self]

/-! ## Layouts from cells -/

/-- Cells whose gaps were decided anew are a layout, by the rule that says
what was decided. -/
theorem laidOut_write_respace
    {rule : Rule} (hfirst : ∀ c, f [] c = false)
    (hrule : ∀ before a gap b (ha : a.isSolid) (hb : b.isSolid),
      (∀ r ∈ gap, r.isSpace) →
      f (⟨gapAfter false before, a, ha⟩ :: (cells before).reverse)
        ⟨!gap.isEmpty, b, hb⟩ = rule before a gap b)
    (source : List Rune) :
    LaidOut rule source (write (respace f [] (cells source))) where
  solid := by
    rw [filter_isSolid_write, map_rune_respace, cells, map_rune_cellsFrom]
  front := by
    intro r hr
    cases hcells : cells source with
    | nil => simp [hcells, respace] at hr
    | cons c cs =>
        rw [hcells, respace, hfirst, write_cons] at hr
        rw [← Option.some.inj hr]
        exact c.solid
  back := fun r hr => isSolid_of_mem_getLast?_write hr
  between := by
    intro before a gap b after hsource ha hb hgap
    rw [hsource, cells_split ha hb hgap, respace_append, respace, respace,
      List.append_nil, hrule before a gap b ha hb hgap]
    rw [write_append, write_cons, write_cons, ← List.append_assoc]
    refine ⟨_, _, ?_, rfl⟩
    rw [List.filter_append, filter_isSolid_separator, filter_isSolid_write,
      map_rune_respace, cells, map_rune_cellsFrom, List.append_nil]

end AssetMinifier.Layout
