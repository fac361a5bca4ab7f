import AssetMinifier.Proofs.Path.Leaf
import AssetMinifier.Proofs.Path.Segment

/-!
# Patterns of segments

The segments of a pattern are globs without brackets and backslashes or `**`,
which stands for any number of segments.  A pattern covers a path if the
segments match in this sense, or if it has a single segment that matches the
last one of the path.
-/

namespace AssetMinifier

namespace Exclude

open AssetMinifier.Path (separator)

/-! ## Patterns and paths -/

/-- The segment that stands for any number of segments. -/
def anyDepth : Text := [Glob.star, Glob.star]

/-- A segment of literal bytes, single stars and `?`. -/
structure IsSimple (segment : Text) : Prop where
  ne_nil : segment ≠ []
  isPlain : Glob.IsPlain segment
  apart : ¬anyDepth <:+: segment

instance (segment : Text) : Decidable (IsSimple segment) :=
  decidable_of_iff
    (segment ≠ [] ∧ Glob.IsPlain segment ∧ ¬anyDepth <:+: segment)
    ⟨fun h => ⟨h.1, h.2.1, h.2.2⟩, fun h => ⟨h.1, h.2, h.3⟩⟩

/-- An exclude pattern of simple segments and `**`. -/
structure Pattern where
  text : Text
  isSegment : ∀ segment ∈ Text.splitOn separator text,
    segment = anyDepth ∨ IsSimple segment

/-- The segments of a pattern. -/
def Pattern.segments (pattern : Pattern) : List Text :=
  Text.splitOn separator pattern.text

/-- A path relative to a directory, which it does not leave. -/
structure RelativePath where
  text : Text
  isProper : ∀ segment ∈ Text.splitOn separator text, Path.IsProper segment

/-- The segments of a path. -/
def RelativePath.segments (path : RelativePath) : List Text :=
  Text.splitOn separator path.text

/-- Segments match globs one by one, where each `**` stands for any number of
segments. -/
inductive Spans : List Text → List Text → Prop
  | nil : Spans [] []
  | segment {glob name : Text} {globs names : List Text}
      (hglob : glob ≠ anyDepth) (hmatch : Glob.matchesName glob name = true)
      (hrest : Spans globs names) :
      Spans (glob :: globs) (name :: names)
  | stop {globs names : List Text} (hrest : Spans globs names) :
      Spans (anyDepth :: globs) names
  | skip {name : Text} {globs names : List Text}
      (hrest : Spans (anyDepth :: globs) names) :
      Spans (anyDepth :: globs) (name :: names)

/-- A pattern covers a path segment by segment or, if it is a single segment
other than `**`, by the last segment of the path. -/
def Pattern.Covers (pattern : Pattern) (path : RelativePath) : Prop :=
  Spans pattern.segments path.segments ∨
    separator ∉ pattern.text ∧ ¬anyDepth <:+: pattern.text ∧
      Glob.matchesName pattern.text (Path.base path.text) = true

theorem Pattern.join_segments
    (pattern : Pattern) :
    Text.join [separator] pattern.segments = pattern.text :=
  Text.join_splitOn separator pattern.text

theorem Pattern.separator_notMem
    {pattern : Pattern} {segment : Text} (h : segment ∈ pattern.segments) :
    separator ∉ segment :=
  Text.notMem_of_mem_splitOn h

theorem Pattern.isPlain
    {pattern : Pattern} {segment : Text} (h : segment ∈ pattern.segments) :
    Glob.IsPlain segment := by
  rcases pattern.isSegment segment h with rfl | hsimple
  · decide
  · exact hsimple.isPlain

theorem Pattern.ne_nil
    {pattern : Pattern} {segment : Text} (h : segment ∈ pattern.segments) :
    segment ≠ [] := by
  rcases pattern.isSegment segment h with rfl | hsimple
  · decide
  · exact hsimple.ne_nil

theorem RelativePath.join_segments
    (path : RelativePath) :
    Text.join [separator] path.segments = path.text :=
  Text.join_splitOn separator path.text

theorem RelativePath.segments_ne_nil
    (path : RelativePath) :
    path.segments ≠ [] :=
  Text.splitOn_ne_nil separator path.text

theorem RelativePath.separator_notMem
    {path : RelativePath} {segment : Text} (h : segment ∈ path.segments) :
    separator ∉ segment :=
  Text.notMem_of_mem_splitOn h

/-- Proper segments are those of some path. -/
theorem exists_relativePath
    {names : List Text} (hne : names ≠ [])
    (h : ∀ name ∈ names, Path.IsProper name ∧ separator ∉ name) :
    ∃ path : RelativePath, path.segments = names := by
  have hsplit := Text.splitOn_join hne fun name hmem => (h name hmem).2
  refine ⟨⟨Text.join [separator] names, ?_⟩, hsplit⟩
  rw [hsplit]
  exact fun name hmem => (h name hmem).1

/-- A pattern contains two stars in a row only if it has a segment `**`. -/
theorem Pattern.anyDepth_infix_iff
    {pattern : Pattern} :
    anyDepth <:+: pattern.text ↔ anyDepth ∈ pattern.segments := by
  have hlocal : separator ∉ anyDepth := by decide
  constructor
  · intro h
    rw [← pattern.join_segments] at h
    obtain ⟨segment, hmem, hsegment⟩ := Text.exists_mem_of_infix_join hlocal
      (Text.splitOn_ne_nil separator pattern.text) h
    rcases pattern.isSegment segment hmem with rfl | hsimple
    · exact hmem
    · exact absurd hsegment hsimple.apart
  · intro h
    rw [← pattern.join_segments]
    exact Text.infix_join_of_mem [separator] h

section Cut

variable {pattern : Pattern} {before after : List Text} {segment : Text}
  (hsegments : pattern.segments = before ++ anyDepth :: after)

include hsegments

theorem Pattern.anyDepth_mem :
    anyDepth ∈ pattern.segments := by
  rw [hsegments]
  exact List.mem_append_right before List.mem_cons_self

theorem Pattern.mem_of_mem_before
    (h : segment ∈ before) :
    segment ∈ pattern.segments := by
  rw [hsegments]
  exact List.mem_append_left _ h

theorem Pattern.mem_of_mem_after
    (h : segment ∈ after) :
    segment ∈ pattern.segments := by
  rw [hsegments]
  exact List.mem_append_right before (List.mem_cons_of_mem _ h)

end Cut

/-! ## Spanning segments -/

theorem spans_nil_iff
    {names : List Text} :
    Spans [] names ↔ names = [] := by
  constructor
  · rintro ⟨⟩
    rfl
  · rintro rfl
    exact Spans.nil

theorem spans_cons_iff
    {glob : Text} {globs names : List Text} (hglob : glob ≠ anyDepth) :
    Spans (glob :: globs) names ↔
      ∃ name rest, names = name :: rest ∧
        Glob.matchesName glob name = true ∧ Spans globs rest := by
  constructor
  · intro h
    cases h with
    | segment _ hmatch hrest => exact ⟨_, _, rfl, hmatch, hrest⟩
    | stop _ => exact absurd rfl hglob
    | skip _ => exact absurd rfl hglob
  · rintro ⟨name, rest, rfl, hmatch, hrest⟩
    exact Spans.segment hglob hmatch hrest

/-- Behind a `**` any tail of the segments may go on. -/
theorem spans_anyDepth_iff
    {globs names : List Text} :
    Spans (anyDepth :: globs) names ↔
      ∃ tail, tail <:+ names ∧ Spans globs tail := by
  constructor
  · intro h
    generalize hpattern : anyDepth :: globs = pattern at h
    induction h with
    | nil => cases hpattern
    | segment hglob _ _ _ =>
        obtain ⟨rfl, -⟩ := List.cons.inj hpattern
        exact absurd rfl hglob
    | stop hrest _ =>
        obtain ⟨-, rfl⟩ := List.cons.inj hpattern
        exact ⟨_, List.suffix_refl _, hrest⟩
    | skip _ ih =>
        obtain ⟨tail, htail, hspans⟩ := ih hpattern
        exact ⟨tail, htail.trans (List.suffix_cons _ _), hspans⟩
  · rintro ⟨tail, ⟨passed, rfl⟩, hspans⟩
    induction passed with
    | nil => exact Spans.stop hspans
    | cons name passed ih => exact Spans.skip ih

theorem spans_iff_matchesEach
    {globs names : List Text} (h : anyDepth ∉ globs) :
    Spans globs names ↔ Glob.MatchesEach globs names := by
  induction globs generalizing names with
  | nil => rw [spans_nil_iff, Glob.MatchesEach, List.forall₂_nil_left_iff]
  | cons glob globs ih =>
      rw [List.mem_cons, not_or] at h
      rw [spans_cons_iff (Ne.symm h.1), Glob.MatchesEach,
        List.forall₂_cons_left_iff]
      constructor
      · rintro ⟨name, rest, hnames, hmatch, hrest⟩
        exact ⟨name, rest, hmatch, (ih h.2).mp hrest, hnames⟩
      · rintro ⟨name, rest, hmatch, hrest, hnames⟩
        exact ⟨name, rest, hnames, hmatch, (ih h.2).mpr hrest⟩

theorem ne_anyDepth_of_isLiteral
    {segment : Text} (h : Glob.IsLiteral segment) :
    segment ≠ anyDepth := by
  rintro rfl
  exact h.1 List.mem_cons_self

/-- Literal segments span themselves. -/
theorem spans_append_iff
    {before globs names : List Text}
    (hplain : ∀ segment ∈ before, Glob.IsPlain segment)
    (hliteral : ∀ segment ∈ before, Glob.IsLiteral segment) :
    Spans (before ++ globs) names ↔
      ∃ rest, names = before ++ rest ∧ Spans globs rest := by
  induction before generalizing names with
  | nil => simp
  | cons glob before ih =>
      have hglob := hliteral glob List.mem_cons_self
      have hsame : ∀ {name}, Glob.matchesName glob name = true ↔ name = glob :=
        Glob.matchesName_iff_of_isLiteral (hplain glob List.mem_cons_self) hglob
      have hbefore : ∀ {rest}, Spans (before ++ globs) rest ↔
          ∃ later, rest = before ++ later ∧ Spans globs later :=
        ih (fun segment hmem => hplain segment (List.mem_cons_of_mem _ hmem))
          fun segment hmem => hliteral segment (List.mem_cons_of_mem _ hmem)
      rw [List.cons_append, spans_cons_iff (ne_anyDepth_of_isLiteral hglob)]
      constructor
      · rintro ⟨name, rest, rfl, hmatch, hrest⟩
        obtain ⟨later, rfl, hlater⟩ := hbefore.mp hrest
        exact ⟨later, by rw [hsame.mp hmatch, List.cons_append], hlater⟩
      · rintro ⟨later, rfl, hlater⟩
        exact ⟨glob, before ++ later, rfl, hsame.mpr rfl,
          hbefore.mpr ⟨later, rfl, hlater⟩⟩

/-- Every segment other than `**` matches some segment of the path. -/
theorem Spans.exists_mem
    {globs names : List Text} (h : Spans globs names) {glob : Text}
    (hmem : glob ∈ globs) (hglob : glob ≠ anyDepth) :
    ∃ name ∈ names, Glob.matchesName glob name = true := by
  induction h with
  | nil => exact absurd hmem List.not_mem_nil
  | segment _ hmatch _ ih =>
      rcases List.mem_cons.mp hmem with rfl | hmem
      · exact ⟨_, List.mem_cons_self, hmatch⟩
      · obtain ⟨name, hname, hmatch⟩ := ih hmem
        exact ⟨name, List.mem_cons_of_mem _ hname, hmatch⟩
  | stop _ ih =>
      rcases List.mem_cons.mp hmem with rfl | hmem
      · exact absurd rfl hglob
      · exact ih hmem
  | skip _ ih =>
      obtain ⟨name, hname, hmatch⟩ := ih hmem
      exact ⟨name, List.mem_cons_of_mem _ hname, hmatch⟩

/-- The samples of the segments other than `**` are spanned. -/
theorem spans_samples
    {globs : List Text}
    (hsegment : ∀ glob ∈ globs, glob = anyDepth ∨ IsSimple glob)
    (hlocal : ∀ glob ∈ globs, separator ∉ glob) :
    Spans globs ((globs.filter (· ≠ anyDepth)).map Glob.sample) := by
  induction globs with
  | nil => exact Spans.nil
  | cons glob globs ih =>
      have hrest := ih
        (fun other hmem => hsegment other (List.mem_cons_of_mem _ hmem))
        (fun other hmem => hlocal other (List.mem_cons_of_mem _ hmem))
      by_cases hglob : glob = anyDepth
      · rw [List.filter_cons_of_neg (by simpa using hglob), hglob]
        exact Spans.stop hrest
      · rw [List.filter_cons_of_pos (by simpa using hglob), List.map_cons]
        have hplain : Glob.IsPlain glob :=
          ((hsegment glob List.mem_cons_self).resolve_left hglob).isPlain
        exact Spans.segment hglob
          (Glob.matchesName_sample hplain (hlocal glob List.mem_cons_self)) hrest

theorem Pattern.isProper_sample
    {pattern : Pattern} (hhere : Path.here ∉ pattern.segments)
    (hparent : Path.parent ∉ pattern.segments) {segment : Text}
    (h : segment ∈ pattern.segments) :
    Path.IsProper (Glob.sample segment) ∧
      separator ∉ Glob.sample segment := by
  refine ⟨?_, Glob.separator_notMem_sample (separator_notMem h)⟩
  by_cases hliteral : Glob.IsLiteral segment
  · rw [Glob.sample_of_isLiteral hliteral]
    exact ⟨ne_nil h, fun heq => hhere (heq ▸ h), fun heq => hparent (heq ▸ h)⟩
  · have hfiller := Glob.filler_mem_sample hliteral
    refine ⟨Glob.sample_ne_nil (ne_nil h), ?_, ?_⟩
    · intro heq
      rw [heq] at hfiller
      exact absurd hfiller (by decide)
    · intro heq
      rw [heq] at hfiller
      exact absurd hfiller (by decide)

/-! ## Covered paths -/

theorem Pattern.covers_iff_spans
    {pattern : Pattern} {path : RelativePath}
    (h : anyDepth ∈ pattern.segments) :
    pattern.Covers path ↔ Spans pattern.segments path.segments :=
  or_iff_left fun hbase => hbase.2.1 (anyDepth_infix_iff.mpr h)

theorem Pattern.covers_iff_of_isLiteral
    {pattern : Pattern} {path : RelativePath} {before after : List Text}
    (hsegments : pattern.segments = before ++ anyDepth :: after)
    (hliteral : ∀ segment ∈ before, Glob.IsLiteral segment) :
    pattern.Covers path ↔
      ∃ rest, path.segments = before ++ rest ∧
        ∃ tail, tail <:+ rest ∧ Spans after tail := by
  have hplain : ∀ segment ∈ before, Glob.IsPlain segment :=
    fun _ h => isPlain (mem_of_mem_before hsegments h)
  rw [covers_iff_spans (anyDepth_mem hsegments), hsegments,
    spans_append_iff hplain hliteral]
  simp only [spans_anyDepth_iff]

end Exclude

end AssetMinifier
