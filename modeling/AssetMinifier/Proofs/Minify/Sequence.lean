import AssetMinifier.Proofs.Minify.Quoted
import AssetMinifier.Proofs.Minify.Stylesheet

/-!
# Stylesheets one behind the other

A closing brace outside of comments divides a stylesheet: no comment, no run of
semicolons and no gap that is kept reaches across it.  So what precedes the
brace and what follows it can be minified apart, whatever follows.
-/

namespace AssetMinifier

namespace Comment

/-- Whether a scan that looks for `/*` outside of comments and for `*/` inside
ends inside a comment, given whether it starts inside one. -/
def endsInside : Bool → Text → Bool
  | inside, [] => inside
  | inside, [_] => inside
  | false, b :: c :: t =>
    if b = slash && c = star then endsInside true t else endsInside false (c :: t)
  | true, b :: c :: t =>
    if b = star && c = slash then endsInside false t else endsInside true (c :: t)

theorem endsInside_open
    (t : Text) :
    endsInside false (slash :: star :: t) = endsInside true t := by
  simp [endsInside]

theorem endsInside_close
    (t : Text) :
    endsInside true (star :: slash :: t) = endsInside false t := by
  simp [endsInside]

theorem endsInside_false_cons
    {b : UInt8} {t : Text} (h : ¬(b = slash ∧ t.head? = some star)) :
    endsInside false (b :: t) = endsInside false t := by
  cases t with
  | nil => rfl
  | cons c t =>
      rw [endsInside, if_neg]
      simpa using h

theorem endsInside_true_cons
    {b : UInt8} {t : Text} (h : ¬(b = star ∧ t.head? = some slash)) :
    endsInside true (b :: t) = endsInside true t := by
  cases t with
  | nil => rfl
  | cons c t =>
      rw [endsInside, if_neg]
      simpa using h

/-- A comment that the scan leaves has an end. -/
theorem exists_close_of_endsInside
    {t : Text} (h : endsInside true t = false) :
    ∃ body after, t = body ++ star :: slash :: after ∧
      ¬[star, slash] <:+: body ∧ endsInside false after = false := by
  induction t with
  | nil => cases h
  | cons b t ih =>
      by_cases hclose : b = star ∧ t.head? = some slash
      · obtain ⟨rfl, hhead⟩ := hclose
        obtain ⟨after, rfl⟩ := List.head?_eq_some_iff.mp hhead
        rw [endsInside_close] at h
        exact ⟨[], after, rfl, by simp, h⟩
      · rw [endsInside_true_cons hclose] at h
        obtain ⟨body, after, rfl, hbody, hafter⟩ := ih h
        refine ⟨b :: body, after, rfl, ?_, hafter⟩
        rw [pair_infix_cons, not_or]
        refine ⟨?_, hbody⟩
        rintro ⟨hb, hhead⟩
        obtain ⟨rest, rfl⟩ := List.head?_eq_some_iff.mp hhead
        exact hclose ⟨hb, rfl⟩

/-- The marks of comments are made of slashes and stars, so another byte at the
end leaves the scan where it is. -/
theorem endsInside_concat
    {x : UInt8} (hslash : x ≠ slash) (hstar : x ≠ star)
    (inside : Bool) (t : Text) :
    endsInside inside (t ++ [x]) = endsInside inside t := by
  fun_induction endsInside inside t with
  | case1 inside => rfl
  | case2 inside b =>
      cases inside with
      | false => simp [endsInside, hstar]
      | true => simp [endsInside, hslash]
  | case3 b c t hopen ih =>
      simpa [endsInside, hopen] using ih
  | case4 b c t hopen ih =>
      simpa [endsInside, hopen] using ih
  | case5 b c t hclose ih =>
      simpa [endsInside, hclose] using ih
  | case6 b c t hclose ih =>
      simpa [endsInside, hclose] using ih

/-- Outside of comments, a byte that belongs to no mark of a comment divides
the text. -/
theorem stripBlocks_append_cons
    {x : UInt8} (hslash : x ≠ slash) (hstar : x ≠ star)
    {s : Text} (hs : endsInside false s = false) (t : Text) :
    stripBlocks (s ++ x :: t) = stripBlocks s ++ x :: stripBlocks t := by
  have hblock : ∀ {b : UInt8} {u : Text},
      ¬(b = slash ∧ u.head? = some star) → blockLength? (b :: u) = none := by
    intro b u hnot
    cases u with
    | nil => rfl
    | cons c u =>
        rw [blockLength?, if_neg]
        simpa using hnot
  induction hn : s.length using Nat.strong_induction_on generalizing s with
  | _ n ih =>
      cases s with
      | nil => exact stripBlocks_cons (hblock fun h => hslash h.1)
      | cons b u =>
          by_cases hopen : b = slash ∧ u.head? = some star
          · obtain ⟨rfl, hhead⟩ := hopen
            obtain ⟨v, rfl⟩ := List.head?_eq_some_iff.mp hhead
            rw [endsInside_open] at hs
            obtain ⟨body, after, rfl, hbody, hafter⟩ :=
              exists_close_of_endsInside hs
            have hshorter : after.length < n := by
              rw [← hn, List.length_cons, List.length_cons, List.length_append,
                List.length_cons, List.length_cons]
              omega
            have hassoc :
                slash :: star :: (body ++ star :: slash :: after) ++ x :: t =
                  slash :: star :: (body ++ star :: slash :: (after ++ x :: t)) := by
              simp
            rw [hassoc, stripBlocks_block hbody, stripBlocks_block hbody,
              ih after.length hshorter hafter rfl]
          · have hshorter : u.length < n := by
              rw [← hn]
              exact Nat.lt_succ_self u.length
            have hrest := ih u.length hshorter (endsInside_false_cons hopen ▸ hs) rfl
            have hopen' : ¬(b = slash ∧ (u ++ x :: t).head? = some star) := by
              rintro ⟨hb, hhead⟩
              cases u with
              | nil => exact hstar (by simpa using hhead)
              | cons c u => exact hopen ⟨hb, hhead⟩
            rw [List.cons_append, stripBlocks_cons (hblock hopen'),
              stripBlocks_cons (hblock hopen), hrest, List.cons_append]

end Comment

namespace Stylesheet

open Layout (Cell cells cellsFrom write respace opensLast tightGap)

/-- The rune of a closing brace. -/
def brace : Rune :=
  .char '\x7d'

theorem isSolid_brace : brace.isSolid := by
  decide

/-- Whether a block ends is decided up to the first brace. -/
theorem endsBlock_append_brace
    (rs qs : List Rune) :
    endsBlock (rs ++ brace :: qs) = endsBlock (rs ++ [brace]) := by
  induction rs with
  | nil =>
      rw [List.nil_append, List.nil_append,
        endsBlock_cons_of_ne isSolid_brace (by decide),
        endsBlock_cons_of_ne isSolid_brace (by decide)]
  | cons r rs ih =>
      rw [List.cons_append, List.cons_append]
      by_cases hsolid : r.isSolid
      · by_cases hr : r = .char ';'
        · rw [hr, endsBlock_semicolon_cons, endsBlock_semicolon_cons, ih]
        · rw [endsBlock_cons_of_ne hsolid hr, endsBlock_cons_of_ne hsolid hr]
      · have hspace := Rune.isSpace_of_not_isSolid hsolid
        rw [endsBlock_cons_of_isSpace hspace, endsBlock_cons_of_isSpace hspace,
          ih]

/-- The semicolons before a brace are dropped without regard to what follows
the brace. -/
theorem exists_dropClosing_append_brace
    (rs : List Rune) :
    ∃ front, ∀ qs,
      dropClosing (rs ++ brace :: qs) = front ++ brace :: dropClosing qs := by
  induction rs with
  | nil =>
      refine ⟨[], fun qs => dropClosing_cons ?_⟩
      rintro ⟨hbrace, -⟩
      exact absurd hbrace (by decide)
  | cons r rs ih =>
      obtain ⟨front, hfront⟩ := ih
      by_cases hdrop : r = .char ';' ∧ endsBlock (rs ++ [brace])
      · obtain ⟨rfl, hends⟩ := hdrop
        refine ⟨front, fun qs => ?_⟩
        rw [List.cons_append, dropClosing_semicolon_cons, hfront]
        rwa [endsBlock_append_brace]
      · refine ⟨r :: front, fun qs => ?_⟩
        rw [List.cons_append, dropClosing_cons, hfront, List.cons_append]
        rwa [endsBlock_append_brace]

/-! ## Gaps behind a brace -/

theorem finalGap_of_opensLast
    {past : List Cell} (h : opensLast opens past) (c : Cell) :
    finalGap past c = false := by
  simp [finalGap, punctuationGap, tightGap, h]

/-- What precedes a cell decides the gaps behind it no more. -/
theorem respace_finalGap_cons
    (d : Cell) (past cs : List Cell) :
    respace finalGap (d :: past) cs = respace finalGap [d] cs := by
  induction cs generalizing d past with
  | nil => rfl
  | cons c cs ih =>
      rw [respace, respace, ih c (d :: past), ih c [d]]
      rfl

/-- Behind an opening rune, gaps are decided as at the front. -/
theorem respace_finalGap_of_opensLast
    {past : List Cell} (h : opensLast opens past) (cs : List Cell) :
    respace finalGap past cs = respace finalGap [] cs := by
  cases cs with
  | nil => rfl
  | cons c cs =>
      rw [respace, respace, respace_finalGap_cons c past,
        finalGap_of_opensLast h]
      rfl

theorem cells_append_brace
    (rs qs : List Rune) :
    cells (rs ++ brace :: qs) = cells (rs ++ [brace]) ++ cells qs := by
  have hgap : Layout.gapAfter false (rs ++ [brace]) = false := by
    rw [Layout.gapAfter, List.getLast?_concat]
    rfl
  have hsplit : rs ++ brace :: qs = (rs ++ [brace]) ++ qs := by
    simp
  rw [hsplit, cells, Layout.cellsFrom_append, hgap]
  rfl

theorem opensLast_reverse_cells
    (rs : List Rune) :
    opensLast opens (cells (rs ++ [brace])).reverse := by
  rw [cells, Layout.cellsFrom_append,
    Layout.cellsFrom_solid_cons _ isSolid_brace, List.reverse_append]
  rfl

/-- A brace divides the layout. -/
theorem write_respace_append_brace
    (rs qs : List Rune) :
    write (respace finalGap [] (cells (rs ++ brace :: qs))) =
      write (respace finalGap [] (cells (rs ++ [brace]))) ++
        write (respace finalGap [] (cells qs)) := by
  rw [cells_append_brace, Layout.respace_append, List.append_nil,
    respace_finalGap_of_opensLast (opensLast_reverse_cells rs),
    Layout.write_append]

/-! ## Minifying apart -/

/-- A stylesheet is minified rule by rule: what ends with a brace outside of
comments can be minified apart from what follows. -/
theorem minify_append
    {a : Text} (hlast : a.getLast? = some 0x7D)
    (hscan : Comment.endsInside false a = false) (b : Text) :
    minify (a ++ b) = minify a ++ minify b := by
  obtain ⟨s, rfl⟩ := List.getLast?_eq_some_iff.mp hlast
  have hslash : (0x7D : UInt8) ≠ Comment.slash := by decide
  have hstar : (0x7D : UInt8) ≠ Comment.star := by decide
  rw [Comment.endsInside_concat hslash hstar] at hscan
  -- Comments are removed on each side of the brace, and runes are read there.
  have hstripped : ∀ t, (Comment.stripBlocks (s ++ 0x7D :: t)).runes =
      (Comment.stripBlocks s).runes ++ brace :: (Comment.stripBlocks t).runes := by
    intro t
    rw [Comment.stripBlocks_append_cons hslash hstar hscan]
    exact Text.runes_append_utf8EncodeChar _ '\x7d' _
  obtain ⟨front, hfront⟩ :=
    exists_dropClosing_append_brace (Comment.stripBlocks s).runes
  have hrunes : (minify (s ++ 0x7D :: b)).runes =
      (minify (s ++ [0x7D])).runes ++ (minify b).runes := by
    have hnil : dropClosing (Comment.stripBlocks ([] : Text)).runes = [] := rfl
    rw [runes_minify, runes_minify, runes_minify, hstripped, hstripped, hfront, hfront,
      hnil, write_respace_append_brace]
  rw [List.append_assoc, List.singleton_append,
    ← Text.ofRunes_runes (minify (s ++ 0x7D :: b)), hrunes, Text.ofRunes_append,
    Text.ofRunes_runes, Text.ofRunes_runes]

/-- A rule, and what follows it broken off in a comment. -/
theorem minify_append_broken :
    (Text.ofString "p \x7b x: 1 ; ; /* \x7d */ \x7d").getLast? = some 0x7D ∧
      Comment.endsInside false
        (Text.ofString "p \x7b x: 1 ; ; /* \x7d */ \x7d") = false ∧
      minify (Text.ofString "p \x7b x: 1 ; ; /* \x7d */ \x7d" ++
          Text.ofString " ; \x7d q > r /* s") =
        Text.ofString "p\x7bx:1\x7d" ++ Text.ofString "\x7dq>r /* s" :=
  ⟨by decide +kernel, by decide +kernel,
    (minify_append (by decide +kernel) (by decide +kernel)
      (Text.ofString " ; \x7d q > r /* s")).trans (by decide +kernel)⟩

end Stylesheet

end AssetMinifier
