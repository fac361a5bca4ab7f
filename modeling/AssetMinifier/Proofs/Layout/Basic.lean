import AssetMinifier.Text.Space
import Mathlib.Data.List.Infix

/-!
# Layouts

A minifier keeps the solid runes of its text and decides anew which of them
are separated.  `LaidOut` says what it means that a sequence of runes is laid
out by a rule: the solid runes are those of the source, no white space stands
at either end, and between two neighbours there is one blank or nothing, as
the rule says of that place of the source.  There is only one such sequence.
-/

namespace AssetMinifier

namespace Rune

/-- A rune is solid if it is not white space. -/
def isSolid (r : Rune) : Bool :=
  !r.isSpace

theorem isSpace_eq_false_of_isSolid
    {r : Rune} (h : r.isSolid) :
    r.isSpace = false := by
  simpa [isSolid] using h

theorem isSpace_of_not_isSolid
    {r : Rune} (h : ¬r.isSolid) :
    r.isSpace = true := by
  simpa [isSolid] using h

theorem not_isSolid_of_isSpace
    {r : Rune} (h : r.isSpace) :
    ¬r.isSolid := by
  simp [isSolid, h]

theorem isSpace_blank : blank.isSpace := by
  decide

end Rune

namespace Layout

/-- A rule says where a blank is needed.  Its arguments are the runes before
a solid rune, that rune, the white space behind it, and the next solid
rune. -/
abbrev Rule := List Rune → Rune → List Rune → Rune → Bool

/-- One blank, or nothing. -/
def separator (needed : Bool) : List Rune :=
  if needed then [Rune.blank] else []

/-- `out` consists of the solid runes of `source`, laid out by `rule`. -/
structure LaidOut (rule : Rule) (source out : List Rune) : Prop where
  /-- Each solid rune is kept, once and in order. -/
  solid : out.filter Rune.isSolid = source.filter Rune.isSolid
  /-- No white space stands at the front. -/
  front : ∀ r ∈ out.head?, r.isSolid
  /-- No white space stands at the end. -/
  back : ∀ r ∈ out.getLast?, r.isSolid
  /-- Neighbours are separated by one blank if the rule says so, and stand
  next to each other otherwise. -/
  between : ∀ before a gap b after,
    source = before ++ a :: (gap ++ b :: after) →
    a.isSolid → b.isSolid → (∀ r ∈ gap, r.isSpace) →
    ∃ before' after',
      before'.filter Rune.isSolid = before.filter Rune.isSolid ∧
      out = before' ++ a :: (separator (rule before a gap b) ++ b :: after')

/-! ## Places in a sequence of runes -/

/-- A solid rune stands at one place only, given the solid runes before it. -/
theorem append_solid_cons_inj
    {p q x y : List Rune} {a b : Rune}
    (ha : a.isSolid) (hb : b.isSolid)
    (hsolid : p.filter Rune.isSolid = q.filter Rune.isSolid)
    (h : p ++ a :: x = q ++ b :: y) :
    p = q ∧ a = b ∧ x = y := by
  induction p generalizing q with
  | nil =>
      cases q with
      | nil => simpa using h
      | cons r q =>
          obtain ⟨rfl, -⟩ := List.cons.inj h
          simp [ha] at hsolid
  | cons r p ih =>
      cases q with
      | nil =>
          obtain ⟨rfl, -⟩ := List.cons.inj h
          simp [hb] at hsolid
      | cons s q =>
          obtain ⟨rfl, hrest⟩ := List.cons.inj h
          have hsolid' :
              p.filter Rune.isSolid = q.filter Rune.isSolid := by
            by_cases hr : r.isSolid
            · simpa [hr] using hsolid
            · simpa [hr] using hsolid
          obtain ⟨rfl, hab⟩ := ih hsolid' hrest
          exact ⟨rfl, hab⟩

/-- A sequence of runes is white space only, or it ends with a solid rune and
the white space behind that. -/
theorem isSpace_or_exists_last_solid
    (rs : List Rune) :
    (∀ r ∈ rs, r.isSpace) ∨
      ∃ before a gap, rs = before ++ a :: gap ∧ a.isSolid ∧
        ∀ r ∈ gap, r.isSpace := by
  induction rs with
  | nil => exact Or.inl (by simp)
  | cons r rs ih =>
      rcases ih with hspace | ⟨before, a, gap, rfl, ha, hgap⟩
      · by_cases hr : r.isSolid
        · exact Or.inr ⟨[], r, rs, rfl, hr, hspace⟩
        · refine Or.inl fun q hq => ?_
          rcases List.mem_cons.mp hq with rfl | hq
          · exact Rune.isSpace_of_not_isSolid hr
          · exact hspace q hq
      · exact Or.inr ⟨r :: before, a, gap, rfl, ha, hgap⟩

theorem filter_isSolid_eq_nil_iff
    {rs : List Rune} :
    rs.filter Rune.isSolid = [] ↔ ∀ r ∈ rs, r.isSpace := by
  simp [Rune.isSolid]

theorem filter_isSolid_separator
    (needed : Bool) :
    (separator needed).filter Rune.isSolid = [] := by
  cases needed with
  | false => rfl
  | true => decide

/-! ## Uniqueness -/

namespace LaidOut

variable {rule : Rule} {source out out' : List Rune}

theorem eq_nil_of_isSpace
    (h : LaidOut rule source out) (hsource : ∀ r ∈ source, r.isSpace) :
    out = [] := by
  have hspace : ∀ r ∈ out, r.isSpace := by
    rw [← filter_isSolid_eq_nil_iff, h.solid, filter_isSolid_eq_nil_iff]
    exact hsource
  cases out with
  | nil => rfl
  | cons r out =>
      exact absurd (h.front r rfl)
        (Rune.not_isSolid_of_isSpace (hspace r List.mem_cons_self))

/-- The first solid rune stands at the front. -/
theorem eq_cons_of_isSpace
    (h : LaidOut rule source out) {before after : List Rune} {a : Rune}
    (hsource : source = before ++ a :: after)
    (hbefore : ∀ r ∈ before, r.isSpace) (ha : a.isSolid) :
    ∃ rest, out = a :: rest := by
  have hsolid := h.solid
  rw [hsource, List.filter_append, filter_isSolid_eq_nil_iff.mpr hbefore,
    List.nil_append, List.filter_cons_of_pos ha] at hsolid
  cases out with
  | nil => simp at hsolid
  | cons r out =>
      rw [List.filter_cons_of_pos (h.front r rfl)] at hsolid
      exact ⟨out, by rw [(List.cons.inj hsolid).1]⟩

/-- Nothing stands behind the last solid rune. -/
theorem eq_of_split_last
    (h : LaidOut rule source out) {before gap p q : List Rune} {a : Rune}
    (hsource : source = before ++ a :: gap) (ha : a.isSolid)
    (hgap : ∀ r ∈ gap, r.isSpace)
    (hp : p.filter Rune.isSolid = before.filter Rune.isSolid)
    (hout : out = p ++ a :: q) :
    q = [] := by
  have hsolid := h.solid
  rw [hsource, hout, List.filter_append, List.filter_append, hp,
    List.filter_cons_of_pos ha, List.filter_cons_of_pos ha,
    filter_isSolid_eq_nil_iff.mpr hgap] at hsolid
  have hspace : ∀ r ∈ q, r.isSpace := by
    rw [← filter_isSolid_eq_nil_iff]
    exact (List.cons.inj (List.append_cancel_left hsolid)).2
  rcases List.eq_nil_or_concat q with hq | ⟨q', r, rfl⟩
  · exact hq
  · have hlast : out.getLast? = some r := by
      rw [hout, List.concat_eq_append, ← List.cons_append,
        ← List.append_assoc, List.getLast?_concat]
    exact absurd (h.back r hlast)
      (Rune.not_isSolid_of_isSpace (hspace r (by simp)))

/-- What stands between a solid rune and the next is settled by the place of
the first. -/
theorem eq_separator_append
    (h : LaidOut rule source out)
    {before gap after p q : List Rune} {a b : Rune}
    (hsource : source = before ++ a :: (gap ++ b :: after))
    (ha : a.isSolid) (hb : b.isSolid) (hgap : ∀ r ∈ gap, r.isSpace)
    (hp : p.filter Rune.isSolid = before.filter Rune.isSolid)
    (hout : out = p ++ a :: q) :
    ∃ rest, q = separator (rule before a gap b) ++ b :: rest := by
  obtain ⟨p', rest, hp', hbetween⟩ :=
    h.between before a gap b after hsource ha hb hgap
  rw [hout] at hbetween
  obtain ⟨-, -, hq⟩ :=
    append_solid_cons_inj ha ha (hp.trans hp'.symm) hbetween
  exact ⟨rest, hq⟩

/-- Where a sequence that is its own layout has a blank, the rule asks for
it. -/
theorem rule_of_blank
    (h : LaidOut rule source source)
    {before after : List Rune} {a b : Rune}
    (hsource : source = before ++ a :: Rune.blank :: b :: after)
    (ha : a.isSolid) (hb : b.isSolid) :
    rule before a [Rune.blank] b := by
  have hblank : ∀ r ∈ [Rune.blank], r.isSpace := by
    intro r hr
    rw [List.mem_singleton.mp hr]
    exact Rune.isSpace_blank
  obtain ⟨rest, hrest⟩ :=
    h.eq_separator_append hsource ha hb hblank rfl hsource
  cases hrule : rule before a [Rune.blank] b with
  | true => rfl
  | false =>
      rw [hrule] at hrest
      obtain ⟨rfl, -⟩ := List.cons.inj hrest
      exact absurd hb (Rune.not_isSolid_of_isSpace Rune.isSpace_blank)

/-- Two layouts of a source agree up to each of its solid runes. -/
theorem exists_common_front
    (h : LaidOut rule source out) (h' : LaidOut rule source out')
    (before : List Rune) (a : Rune) (after : List Rune)
    (hsource : source = before ++ a :: after) (ha : a.isSolid) :
    ∃ p q q', p.filter Rune.isSolid = before.filter Rune.isSolid ∧
      out = p ++ a :: q ∧ out' = p ++ a :: q' := by
  rcases isSpace_or_exists_last_solid before with
    hspace | ⟨before₀, a₀, gap, hbefore, ha₀, hgap⟩
  · obtain ⟨q, hq⟩ := h.eq_cons_of_isSpace hsource hspace ha
    obtain ⟨q', hq'⟩ := h'.eq_cons_of_isSpace hsource hspace ha
    refine ⟨[], q, q', ?_, hq, hq'⟩
    rw [filter_isSolid_eq_nil_iff.mpr hspace, List.filter_nil]
  · -- The layouts agree up to the solid rune before, and from there on the
    -- rule decides what both have up to `a`.
    have hsplit : source = before₀ ++ a₀ :: (gap ++ a :: after) := by
      rw [hsource, hbefore, List.append_assoc, List.cons_append]
    obtain ⟨p, q, q', hp, hout, hout'⟩ :=
      exists_common_front h h' before₀ a₀ (gap ++ a :: after) hsplit ha₀
    obtain ⟨rest, rfl⟩ :=
      h.eq_separator_append hsplit ha₀ ha hgap hp hout
    obtain ⟨rest', rfl⟩ :=
      h'.eq_separator_append hsplit ha₀ ha hgap hp hout'
    refine ⟨p ++ a₀ :: separator (rule before₀ a₀ gap a), rest, rest',
      ?_, ?_, ?_⟩
    · rw [hbefore, List.filter_append, List.filter_append, hp,
        List.filter_cons_of_pos ha₀, List.filter_cons_of_pos ha₀,
        filter_isSolid_separator, filter_isSolid_eq_nil_iff.mpr hgap]
    · rw [hout, List.append_assoc, List.cons_append]
    · rw [hout', List.append_assoc, List.cons_append]
termination_by before.length
decreasing_by
  rw [hbefore, List.length_append, List.length_cons]
  omega

/-- A source has at most one layout by a rule. -/
theorem unique
    (h : LaidOut rule source out) (h' : LaidOut rule source out') :
    out = out' := by
  rcases isSpace_or_exists_last_solid source with
    hspace | ⟨before, a, gap, hsource, ha, hgap⟩
  · rw [h.eq_nil_of_isSpace hspace, h'.eq_nil_of_isSpace hspace]
  · obtain ⟨p, q, q', hp, hout, hout'⟩ :=
      exists_common_front h h' before a gap hsource ha
    rw [hout, hout', h.eq_of_split_last hsource ha hgap hp hout,
      h'.eq_of_split_last hsource ha hgap hp hout']

/-- To be a layout is to be the given one. -/
theorem eq_iff
    (h : LaidOut rule source out) :
    out = out' ↔ LaidOut rule source out' := by
  constructor
  · rintro rfl
    exact h
  · intro h'
    exact h.unique h'

end LaidOut

end Layout

end AssetMinifier
