import AssetMinifier.Path.Exclude
import AssetMinifier.Proofs.Path.Pattern

/-!
# Exclude patterns segment by segment

Matching cuts a pattern at its first `**`.  What precedes it is compared
literally, a `**` in what follows is read as a star, and a star there also
takes what is left of a path that ends before it.  A pattern is *faithful* if
none of this shows, and these are exactly the patterns that match the paths
they cover and no others.
-/

namespace AssetMinifier

namespace Text

theorem cut?_of_not_infix
    {sep t : Text} (h : ¬sep <:+: t) :
    cut? sep t = none := by
  induction t with
  | nil =>
      have hne : sep ≠ [] := by
        rintro rfl
        exact h List.nil_infix
      simp [cut?, hne]
  | cons b t ih =>
      have hnot : ¬sep <+: b :: t := fun hlead => h hlead.isInfix
      have hrest := ih fun hlater => h (List.infix_cons hlater)
      simp [cut?, dropLead?, hnot, hrest]

/-- A text is cut at an occurrence that none precedes. -/
theorem cut?_append
    {sep before : Text} (hne : sep ≠ [])
    (h : ¬sep <:+: before ++ sep.dropLast) (after : Text) :
    cut? sep (before ++ (sep ++ after)) = some (before, after) := by
  induction before with
  | nil =>
      obtain ⟨b, t, rfl⟩ := List.exists_cons_of_ne_nil hne
      simp [cut?, dropLead?]
  | cons b before ih =>
      have hrest := ih fun hlater => h (List.infix_cons hlater)
      have hnot : ¬sep <+: b :: (before ++ (sep ++ after)) := by
        intro hlead
        apply h
        apply List.IsPrefix.isInfix
        have hlonger : b :: before ++ sep.dropLast <+:
            b :: (before ++ (sep ++ after)) := by
          rw [List.cons_append, List.cons_prefix_cons]
          refine ⟨rfl, (List.prefix_append_right_inj before).mpr ?_⟩
          exact (List.dropLast_prefix sep).trans (List.prefix_append _ _)
        refine List.prefix_of_prefix_length_le hlead hlonger ?_
        simp only [List.cons_append, List.length_cons, List.length_append,
          List.length_dropLast]
        omega
      simp [cut?, dropLead?, hnot, hrest]

end Text

namespace Exclude

open AssetMinifier.Path (separator)

/-! ## Matching described by segments -/

theorem join_eq_nil_iff
    {segments : List Text} (h : ∀ segment ∈ segments, segment ≠ []) :
    Text.join [separator] segments = [] ↔ segments = [] := by
  constructor
  · intro hjoin
    by_contra hne
    obtain ⟨first, rest, rfl⟩ := List.exists_cons_of_ne_nil hne
    have hfirst := Text.infix_join_of_mem [separator]
      (List.mem_cons_self : first ∈ first :: rest)
    rw [hjoin, List.infix_nil] at hfirst
    exact h first List.mem_cons_self hfirst
  · rintro rfl
    rfl

theorem dropLead_separator_cons
    (t : Text) :
    Text.dropLead [separator] (separator :: t) = t := by
  simp [Text.dropLead, Text.dropLead?]

theorem dropTail_append_separator
    (t : Text) :
    Text.dropTail [separator] (t ++ [separator]) = t := by
  simp [Text.dropTail]

/-- What is left below a directory is what follows its segments. -/
theorem below?_join_eq_some_iff
    {before names : List Text} {rest : Text}
    (hne : ∀ segment ∈ before, segment ≠ [])
    (hbefore : ∀ segment ∈ before, separator ∉ segment)
    (hnames : names ≠ []) (hlocal : ∀ name ∈ names, separator ∉ name) :
    below? (Text.join [separator] before) (Text.join [separator] names) =
        some rest ↔
      ∃ later, names = before ++ later ∧
        rest = Text.join [separator] later := by
  by_cases hnil : before = []
  · subst hnil
    simp [below?, Text.join, eq_comm]
  · have hdir : Text.join [separator] before ≠ [] := by
      rwa [Ne, join_eq_nil_iff hne]
    have hsplit := Text.splitOn_join hnil hbefore
    have hsplit' := Text.splitOn_join hnames hlocal
    rw [below?, if_neg (by simpa using hdir)]
    constructor
    · intro h
      split at h
      · rename_i hbelow
        rw [Option.some.injEq] at h
        rw [Bool.or_eq_true, decide_eq_true_eq, List.isPrefixOf_iff_prefix]
          at hbelow
        rcases hbelow with hsame | ⟨u, hu⟩
        · refine ⟨[], ?_, ?_⟩
          · rw [List.append_nil, ← hsplit', hsame, hsplit]
          · rw [← h, hsame, List.drop_length]
            rfl
        · rw [List.append_assoc, List.singleton_append] at hu
          refine ⟨Text.splitOn separator u, ?_, ?_⟩
          · rw [← hsplit', ← hu, Text.splitOn_append_separator, hsplit]
          · rw [← h, ← hu, List.drop_left, dropLead_separator_cons,
              Text.join_splitOn]
      · cases h
    · rintro ⟨later, rfl, rfl⟩
      by_cases hlater : later = []
      · subst hlater
        rw [if_pos (by simp), List.append_nil, List.drop_length]
        rfl
      · rw [Text.join_append _ hnil hlater, if_pos (by simp), List.drop_left,
          List.singleton_append, dropLead_separator_cons]

theorem matchesTail_eq_true_iff
    {glob : Text} {segments : List Text} :
    matchesTail glob segments = true ↔
      ∃ tail, tail ≠ [] ∧ tail <:+ segments ∧
        Glob.matchesName glob (Text.join [separator] tail) = true := by
  induction segments with
  | nil =>
      constructor
      · intro h
        cases h
      · rintro ⟨tail, hne, htail, -⟩
        exact absurd (List.suffix_nil.mp htail) hne
  | cons segment segments ih =>
      rw [matchesTail, Bool.or_eq_true, ih]
      constructor
      · rintro (hmatch | ⟨tail, hne, htail, hmatch⟩)
        · exact ⟨_, List.cons_ne_nil _ _, List.suffix_refl _, hmatch⟩
        · exact ⟨tail, hne, htail.trans (List.suffix_cons _ _), hmatch⟩
      · rintro ⟨tail, hne, htail, hmatch⟩
        rcases List.suffix_cons_iff.mp htail with rfl | htail
        · exact Or.inl hmatch
        · exact Or.inr ⟨tail, hne, htail, hmatch⟩

/-- A pattern is cut at its first `**`, and the slashes beside it go. -/
theorem exists_cut?_eq
    {pattern : Pattern} {before after : List Text}
    (hsegments : pattern.segments = before ++ anyDepth :: after)
    (hbefore : anyDepth ∉ before) :
    ∃ lead trail, Text.cut? "**" pattern.text = some (lead, trail) ∧
      Text.dropTail [separator] lead = Text.join [separator] before ∧
      Text.dropLead [separator] trail = Text.join [separator] after := by
  have htrail : ∃ trail,
      Text.join [separator] (anyDepth :: after) = anyDepth ++ trail ∧
      Text.dropLead [separator] trail = Text.join [separator] after := by
    by_cases hnil : after = []
    · exact ⟨[], by rw [hnil]; rfl, by rw [hnil]; rfl⟩
    · refine ⟨separator :: Text.join [separator] after, ?_,
        dropLead_separator_cons _⟩
      rw [Text.join_cons _ _ hnil, List.append_assoc, List.singleton_append]
  have hlead : ∃ lead, pattern.text =
        lead ++ Text.join [separator] (anyDepth :: after) ∧
      Text.dropTail [separator] lead = Text.join [separator] before ∧
      ¬anyDepth <:+: lead ++ anyDepth.dropLast := by
    rw [← pattern.join_segments, hsegments]
    by_cases hnil : before = []
    · exact ⟨[], by rw [hnil]; rfl, by rw [hnil]; rfl, by decide⟩
    · refine ⟨Text.join [separator] before ++ [separator], ?_,
        dropTail_append_separator _, ?_⟩
      · rw [Text.join_append _ hnil (List.cons_ne_nil _ _), List.append_assoc]
      · intro h
        rw [List.append_assoc, List.singleton_append] at h
        rcases Text.infix_append_separator (by decide) h with h | h
        · obtain ⟨segment, hmem, hsegment⟩ :=
            Text.exists_mem_of_infix_join (by decide) hnil h
          rcases pattern.isSegment segment
            (Pattern.mem_of_mem_before hsegments hmem) with rfl | hsimple
          · exact hbefore hmem
          · exact hsimple.apart hsegment
        · exact absurd h (by decide)
  obtain ⟨trail, htext, htrail⟩ := htrail
  obtain ⟨lead, htext', hlead, hnot⟩ := hlead
  refine ⟨lead, trail, ?_, hlead, htrail⟩
  have hstars : Text.ofString "**" = anyDepth := by decide
  rw [htext', htext, hstars]
  exact Text.cut?_append (by decide) hnot trail

/-- What matching does with a pattern that has a `**`. -/
theorem isMatch_eq_true_iff
    {pattern : Pattern} {path : RelativePath} {before after : List Text}
    (hsegments : pattern.segments = before ++ anyDepth :: after)
    (hbefore : anyDepth ∉ before) :
    isMatch path.text pattern.text = true ↔
      ∃ rest, path.segments = before ++ rest ∧
        (after = [] ∨ ∃ tail, tail ≠ [] ∧
          tail <:+ Text.splitOn separator (Text.join [separator] rest) ∧
          Glob.MatchesEach after tail) := by
  have hbelow : ∀ {rest}, below? (Text.join [separator] before) path.text =
      some rest ↔ ∃ later, path.segments = before ++ later ∧
        rest = Text.join [separator] later := by
    intro rest
    rw [← path.join_segments]
    exact below?_join_eq_some_iff
      (fun _ h => Pattern.ne_nil (Pattern.mem_of_mem_before hsegments h))
      (fun _ h =>
        Pattern.separator_notMem (Pattern.mem_of_mem_before hsegments h))
      path.segments_ne_nil fun _ => RelativePath.separator_notMem
  -- The glob behind `**` is tried on every tail of what is left.
  have hglob : ∀ rest, ((Text.join [separator] after).isEmpty ||
      matchesTail (Text.join [separator] after)
        (Text.splitOn separator rest)) = true ↔
      after = [] ∨ ∃ tail, tail ≠ [] ∧
        tail <:+ Text.splitOn separator rest ∧
        Glob.MatchesEach after tail := by
    intro rest
    rw [Bool.or_eq_true, List.isEmpty_iff, join_eq_nil_iff
      fun _ h => Pattern.ne_nil (Pattern.mem_of_mem_after hsegments h)]
    by_cases hnil : after = []
    · simp [hnil]
    · rw [or_iff_right hnil, or_iff_right hnil, matchesTail_eq_true_iff]
      refine exists_congr fun tail => and_congr_right fun hne =>
        and_congr_right fun htail => ?_
      exact Glob.matchesName_join_iff hnil hne
        (fun _ h => Pattern.isPlain (Pattern.mem_of_mem_after hsegments h))
        (fun _ h =>
          Pattern.separator_notMem (Pattern.mem_of_mem_after hsegments h))
        (fun _ h => Text.notMem_of_mem_splitOn (htail.subset h))
  obtain ⟨lead, trail, hcut, hlead, htrail⟩ := exists_cut?_eq hsegments hbefore
  simp only [isMatch, hcut, hlead, htrail]
  constructor
  · intro h
    split at h
    · cases h
    · rename_i rest hrest
      obtain ⟨later, hpath, rfl⟩ := hbelow.mp hrest
      exact ⟨later, hpath, (hglob _).mp h⟩
  · rintro ⟨rest, hpath, hafter⟩
    rw [hbelow.mpr ⟨rest, hpath, rfl⟩]
    exact (hglob _).mpr hafter

/-! ## Faithful patterns -/

/-- A pattern is faithful if it has no `**`, or if it can match no path
because of a `.` or `..`, or if only literal segments precede its first `**`
and what follows is nothing, one more `**`, or segments without a `**` that are
not just a star behind a directory. -/
def Pattern.IsFaithful (pattern : Pattern) : Prop :=
  anyDepth ∉ pattern.segments ∨
    Path.here ∈ pattern.segments ∨ Path.parent ∈ pattern.segments ∨
    ∃ before after, pattern.segments = before ++ anyDepth :: after ∧
      (∀ segment ∈ before, Glob.IsLiteral segment) ∧
      (after = [] ∨ after = [anyDepth] ∨
        anyDepth ∉ after ∧ (before = [] ∨ after ≠ [[Glob.star]]))

theorem RelativePath.separator_notMem_base
    (path : RelativePath) :
    separator ∉ Path.base path.text := by
  have hleaf : Path.leaf path.text ∈ path.segments := by
    rw [segments, Path.splitOn_eq]
    exact List.mem_append_right _ List.mem_cons_self
  rw [Path.base_eq_leaf (path.isProper _ hleaf).1]
  exact Path.separator_notMem_leaf path.text

theorem isMatch_iff_covers_of_notMem
    {pattern : Pattern} (h : anyDepth ∉ pattern.segments)
    (path : RelativePath) :
    isMatch path.text pattern.text = true ↔ pattern.Covers path := by
  have hnot : ¬anyDepth <:+: pattern.text :=
    fun hpair => h (Pattern.anyDepth_infix_iff.mp hpair)
  have hcut : Text.cut? "**" pattern.text = none := Text.cut?_of_not_infix hnot
  have hspans : Glob.matchesName pattern.text path.text = true ↔
      Spans pattern.segments path.segments := by
    rw [spans_iff_matchesEach h, ← pattern.join_segments, ← path.join_segments]
    exact Glob.matchesName_join_iff
      (Text.splitOn_ne_nil separator pattern.text) path.segments_ne_nil
      (fun _ => Pattern.isPlain) (fun _ => Pattern.separator_notMem)
      fun _ => RelativePath.separator_notMem
  have hbase : Glob.matchesName pattern.text (Path.base path.text) = true →
      separator ∉ pattern.text := by
    intro hmatch
    have hplain : Glob.IsPlain pattern.text := by
      rw [← pattern.join_segments]
      exact Glob.isPlain_join fun _ => Pattern.isPlain
    have hcount := Glob.count_of_matchesName hplain hmatch
    rw [List.count_eq_zero.mpr path.separator_notMem_base] at hcount
    exact List.count_eq_zero.mp hcount.symm
  rw [isMatch, hcut, Bool.or_eq_true, hspans, Pattern.Covers]
  constructor
  · rintro (hmatch | hmatch)
    · exact Or.inl hmatch
    · exact Or.inr ⟨hbase hmatch, hnot, hmatch⟩
  · rintro (hmatch | ⟨-, -, hmatch⟩)
    · exact Or.inl hmatch
    · exact Or.inr hmatch

theorem mem_splitOn_join
    {rest : List Text} (hlocal : ∀ name ∈ rest, separator ∉ name) {name : Text}
    (h : name ∈ Text.splitOn separator (Text.join [separator] rest)) :
    name = [] ∨ name ∈ rest := by
  by_cases hnil : rest = []
  · rw [hnil] at h
    exact Or.inl (List.mem_singleton.mp h)
  · rw [Text.splitOn_join hnil hlocal] at h
    exact Or.inr h

/-- A pattern with `.` or `..` as a segment matches and covers nothing. -/
theorem isMatch_iff_covers_of_not_isProper
    {pattern : Pattern} {dots : Text} (hdots : dots ∈ pattern.segments)
    (hliteral : Glob.IsLiteral dots) (hproper : ¬Path.IsProper dots)
    (path : RelativePath) :
    isMatch path.text pattern.text = true ↔ pattern.Covers path := by
  by_cases hdepth : anyDepth ∉ pattern.segments
  · exact isMatch_iff_covers_of_notMem hdepth path
  rw [not_not] at hdepth
  have hsame : ∀ {name}, Glob.matchesName dots name = true ↔ name = dots :=
    Glob.matchesName_iff_of_isLiteral (Pattern.isPlain hdots) hliteral
  have hnotMem : dots ∉ path.segments :=
    fun hmem => hproper (path.isProper dots hmem)
  have hne : dots ≠ anyDepth := ne_anyDepth_of_isLiteral hliteral
  apply iff_of_false
  · intro hmatch
    obtain ⟨before, after, hsegments, hbefore⟩ :=
      List.eq_append_cons_of_mem hdepth
    obtain ⟨rest, hpath, hafter⟩ :=
      (isMatch_eq_true_iff hsegments hbefore).mp hmatch
    have hlocal : ∀ name ∈ rest, separator ∉ name := fun name hmem =>
      RelativePath.separator_notMem (hpath ▸ List.mem_append_right before hmem)
    have hmem := hdots
    rw [hsegments, List.mem_append, List.mem_cons] at hmem
    rcases hmem with hmem | rfl | hmem
    · exact hnotMem (hpath ▸ List.mem_append_left rest hmem)
    · exact hne rfl
    · obtain ⟨tail, -, htail, hglobs⟩ :=
        hafter.resolve_left (List.ne_nil_of_mem hmem)
      obtain ⟨name, hname, hmatch⟩ := hglobs.exists_mem hmem
      rw [hsame.mp hmatch] at hname
      rcases mem_splitOn_join hlocal (htail.subset hname) with hnil | hrest
      · exact Pattern.ne_nil hdots hnil
      · exact hnotMem (hpath ▸ List.mem_append_right before hrest)
  · intro hcovers
    obtain ⟨name, hname, hmatch⟩ :=
      ((Pattern.covers_iff_spans hdepth).mp hcovers).exists_mem hdots hne
    exact hnotMem (hsame.mp hmatch ▸ hname)

/-- A simple segment that matches nothing at all is a star. -/
theorem IsSimple.eq_star
    {segment : Text} (h : IsSimple segment)
    (hmatch : Glob.matchesName segment [] = true) :
    segment = [Glob.star] := by
  have hstar := Glob.eq_star_of_matchesName_nil h.isPlain hmatch
  match segment, h, hstar with
  | [], h, _ => exact absurd rfl h.ne_nil
  | [b], _, hstar => rw [hstar b List.mem_cons_self]
  | b :: c :: rest, h, hstar =>
      have hb := hstar b List.mem_cons_self
      have hc := hstar c (List.mem_cons_of_mem _ List.mem_cons_self)
      exact absurd ⟨[], rest, by rw [hb, hc]; rfl⟩ h.apart

/-- Of a path that ends at the directory a star is left. -/
theorem eq_star_of_matchesEach
    {after tail : List Text} (hsimple : ∀ segment ∈ after, IsSimple segment)
    (hne : tail ≠ []) (htail : tail <:+ [[]])
    (h : Glob.MatchesEach after tail) :
    after = [[Glob.star]] := by
  rcases List.suffix_cons_iff.mp htail with rfl | hnil
  · obtain ⟨glob, globs, hmatch, hglobs, rfl⟩ :=
      List.forall₂_cons_right_iff.mp h
    rw [List.forall₂_nil_right_iff] at hglobs
    rw [hglobs, (hsimple glob List.mem_cons_self).eq_star hmatch]
  · exact absurd (List.suffix_nil.mp hnil) hne

/-- Behind a literal directory and `**`, segments without a further `**` are
matched as they should be, unless a star is all there is. -/
theorem isMatch_iff_covers_of_isLiteral
    {pattern : Pattern} {before after : List Text}
    (hsegments : pattern.segments = before ++ anyDepth :: after)
    (hliteral : ∀ segment ∈ before, Glob.IsLiteral segment)
    (hafter : after = [] ∨ after = [anyDepth] ∨
      anyDepth ∉ after ∧ (before = [] ∨ after ≠ [[Glob.star]]))
    (path : RelativePath) :
    isMatch path.text pattern.text = true ↔ pattern.Covers path := by
  have hbefore : anyDepth ∉ before :=
    fun hmem => ne_anyDepth_of_isLiteral (hliteral _ hmem) rfl
  rw [isMatch_eq_true_iff hsegments hbefore,
    Pattern.covers_iff_of_isLiteral hsegments hliteral]
  refine exists_congr fun rest => and_congr_right fun hpath => ?_
  have hlocal : ∀ name ∈ rest, separator ∉ name := fun name hmem =>
    RelativePath.separator_notMem (hpath ▸ List.mem_append_right before hmem)
  rcases hafter with rfl | rfl | ⟨hdepth, hstar⟩
  · exact iff_of_true (Or.inl rfl) ⟨[], List.nil_suffix, Spans.nil⟩
  · apply iff_of_true
    · right
      -- The last segment is a tail that two stars match.
      let segments := Text.splitOn separator (Text.join [separator] rest)
      have hne : segments ≠ [] := Text.splitOn_ne_nil _ _
      refine ⟨[segments.getLast hne], List.cons_ne_nil _ _,
        ⟨segments.dropLast, List.dropLast_append_getLast hne⟩, ?_⟩
      apply List.Forall₂.cons _ List.Forall₂.nil
      exact Glob.matchesName_stars
        (Text.notMem_of_mem_splitOn (List.getLast_mem hne))
    · exact ⟨[], List.nil_suffix, Spans.stop Spans.nil⟩
  · by_cases hnil : after = []
    · rw [hnil]
      exact iff_of_true (Or.inl rfl) ⟨[], List.nil_suffix, Spans.nil⟩
    · rw [or_iff_right hnil]
      simp only [spans_iff_matchesEach hdepth]
      by_cases hrest : rest = []
      · subst hrest
        rw [List.append_nil] at hpath
        apply iff_of_false
        · rintro ⟨tail, hne, htail, hglobs⟩
          have hsimple : ∀ segment ∈ after, IsSimple segment := by
            intro segment hmem
            have hpattern := Pattern.mem_of_mem_after hsegments hmem
            exact (pattern.isSegment segment hpattern).resolve_left
              fun heq => hdepth (heq ▸ hmem)
          have hafter := eq_star_of_matchesEach hsimple hne htail hglobs
          rcases hstar with hempty | hother
          · exact path.segments_ne_nil (hpath.trans hempty)
          · exact hother hafter
        · rintro ⟨tail, htail, hglobs⟩
          exact hglobs.ne_nil hnil (List.suffix_nil.mp htail)
      · rw [Text.splitOn_join hrest hlocal]
        exact exists_congr fun tail =>
          and_iff_right_of_imp fun hglobs => hglobs.2.ne_nil hnil

/-! ## Patterns that are not faithful -/

section Unfaithful

variable {pattern : Pattern} {before after : List Text}
  (hsegments : pattern.segments = before ++ anyDepth :: after)
  (hhere : Path.here ∉ pattern.segments)
  (hparent : Path.parent ∉ pattern.segments)

include hsegments hhere hparent

/-- Wildcards before `**` are not read as such. -/
theorem exists_covers_not_isMatch_of_not_isLiteral
    (hbefore : anyDepth ∉ before)
    (hliteral : ¬∀ segment ∈ before, Glob.IsLiteral segment) :
    ∃ path : RelativePath, pattern.Covers path ∧
      ¬isMatch path.text pattern.text = true := by
  have hkeep : before.filter (· ≠ anyDepth) = before := by
    apply List.filter_eq_self.mpr
    intro segment hmem
    have hne : segment ≠ anyDepth := fun heq => hbefore (heq ▸ hmem)
    simpa using hne
  have hfront : before.map Glob.sample <+:
      (pattern.segments.filter (· ≠ anyDepth)).map Glob.sample := by
    rw [hsegments, List.filter_append, hkeep, List.map_append]
    exact List.prefix_append _ _
  obtain ⟨path, hpath⟩ : ∃ path : RelativePath, path.segments =
      (pattern.segments.filter (· ≠ anyDepth)).map Glob.sample := by
    apply exists_relativePath
    · intro hnil
      rw [hnil, List.prefix_nil, List.map_eq_nil_iff] at hfront
      apply hliteral
      intro segment hmem
      exact absurd hmem (hfront ▸ List.not_mem_nil)
    · intro name hname
      obtain ⟨segment, hsegment, rfl⟩ := List.mem_map.mp hname
      exact Pattern.isProper_sample hhere hparent
        (List.mem_of_mem_filter hsegment)
  refine ⟨path, ?_, ?_⟩
  · rw [Pattern.covers_iff_spans (Pattern.anyDepth_mem hsegments), hpath]
    exact spans_samples pattern.isSegment fun _ => Pattern.separator_notMem
  · rw [isMatch_eq_true_iff hsegments hbefore]
    rintro ⟨rest, hrest, -⟩
    -- The samples of the leading segments would be these segments themselves.
    have hsame : before.map Glob.sample = before := by
      rw [← hpath, hrest] at hfront
      apply (List.prefix_of_prefix_length_le hfront
        (List.prefix_append before rest) ?_).eq_of_length
      · exact List.length_map Glob.sample
      · exact (List.length_map Glob.sample).le
    apply hliteral
    intro segment hsegment
    rw [← hsame] at hsegment
    obtain ⟨glob, -, rfl⟩ := List.mem_map.mp hsegment
    exact Glob.isLiteral_sample glob

section Literal

variable (hliteral : ∀ segment ∈ before, Glob.IsLiteral segment)

include hliteral

theorem isProper_of_isLiteral
    {segment : Text} (h : segment ∈ before) :
    Path.IsProper segment ∧ separator ∉ segment := by
  have hsample := Pattern.isProper_sample hhere hparent
    (Pattern.mem_of_mem_before hsegments h)
  rwa [Glob.sample_of_isLiteral (hliteral segment h)] at hsample

/-- A second `**` is read as a star. -/
theorem exists_covers_not_isMatch_of_mem
    (hmem : anyDepth ∈ after) (hafter : after ≠ [anyDepth]) :
    ∃ path : RelativePath, pattern.Covers path ∧
      ¬isMatch path.text pattern.text = true := by
  have hbefore : anyDepth ∉ before :=
    fun hmem => ne_anyDepth_of_isLiteral (hliteral _ hmem) rfl
  have hpattern : ∀ segment ∈ after, segment ∈ pattern.segments :=
    fun _ h => Pattern.mem_of_mem_after hsegments h
  let tail := (after.filter (· ≠ anyDepth)).map Glob.sample
  have htail : Spans after tail :=
    spans_samples (fun segment h => pattern.isSegment segment (hpattern segment h))
      fun segment h => Pattern.separator_notMem (hpattern segment h)
  -- Too few segments are left for one to stand for each `**`.
  obtain ⟨rest, hne, hsuffix, hlength, hrest⟩ :
      ∃ rest, rest ≠ [] ∧ tail <:+ rest ∧ rest.length < after.length ∧
        ∀ name ∈ rest, Path.IsProper name ∧ separator ∉ name := by
    by_cases hnil : tail = []
    · refine ⟨[[Glob.filler]], List.cons_ne_nil _ _, ?_, ?_, ?_⟩
      · rw [hnil]
        exact List.nil_suffix
      · have hpos := List.length_pos_of_mem hmem
        have hone : after.length ≠ 1 := by
          intro hone
          obtain ⟨segment, rfl⟩ := List.length_eq_one_iff.mp hone
          rw [List.mem_singleton] at hmem
          exact hafter (by rw [hmem])
        rw [List.length_singleton]
        omega
      · intro name hname
        rw [List.mem_singleton.mp hname]
        exact ⟨⟨by decide, by decide, by decide⟩, by decide⟩
    · refine ⟨tail, hnil, List.suffix_refl tail, ?_, ?_⟩
      · rw [List.length_map, List.length_filter_lt_length_iff_exists]
        exact ⟨anyDepth, hmem, by simp⟩
      · intro name hname
        obtain ⟨segment, hsegment, rfl⟩ := List.mem_map.mp hname
        exact Pattern.isProper_sample hhere hparent
          (hpattern segment (List.mem_of_mem_filter hsegment))
  obtain ⟨path, hpath⟩ : ∃ path : RelativePath,
      path.segments = before ++ rest := by
    apply exists_relativePath
    · simp [hne]
    · intro name hname
      rcases List.mem_append.mp hname with hname | hname
      · exact isProper_of_isLiteral hsegments hhere hparent hliteral hname
      · exact hrest name hname
  refine ⟨path, ?_, ?_⟩
  · rw [Pattern.covers_iff_of_isLiteral hsegments hliteral]
    exact ⟨rest, hpath, tail, hsuffix, htail⟩
  · rw [isMatch_eq_true_iff hsegments hbefore]
    rintro ⟨other, hother, hmatch⟩
    rw [hpath, List.append_cancel_left_eq] at hother
    obtain ⟨found, -, hfound, hglobs⟩ :=
      hmatch.resolve_left (List.ne_nil_of_mem hmem)
    rw [← hother, Text.splitOn_join hne fun name h => (hrest name h).2]
      at hfound
    have hle := hfound.length_le
    have heq := hglobs.length_eq
    omega

/-- A star behind `**` takes what is left of the directory itself. -/
theorem exists_isMatch_not_covers
    (hne : before ≠ []) (hafter : after = [[Glob.star]]) :
    ∃ path : RelativePath, isMatch path.text pattern.text = true ∧
      ¬pattern.Covers path := by
  have hbefore : anyDepth ∉ before :=
    fun hmem => ne_anyDepth_of_isLiteral (hliteral _ hmem) rfl
  obtain ⟨path, hpath⟩ := exists_relativePath hne
    fun _ => isProper_of_isLiteral hsegments hhere hparent hliteral
  refine ⟨path, ?_, ?_⟩
  · rw [isMatch_eq_true_iff hsegments hbefore]
    refine ⟨[], by rw [hpath, List.append_nil], Or.inr ?_⟩
    refine ⟨[[]], List.cons_ne_nil _ _, List.suffix_refl _, ?_⟩
    rw [hafter]
    exact List.Forall₂.cons (by decide) List.Forall₂.nil
  · rw [Pattern.covers_iff_of_isLiteral hsegments hliteral]
    rintro ⟨rest, hrest, tail, htail, hspans⟩
    rw [hpath, List.self_eq_append_right] at hrest
    rw [hrest, List.suffix_nil] at htail
    rw [hafter, spans_iff_matchesEach (by decide)] at hspans
    exact hspans.ne_nil (List.cons_ne_nil _ _) htail

end Literal

end Unfaithful

/-- The faithful patterns are those that match exactly the paths they
cover. -/
theorem isMatch_iff_covers_iff_isFaithful
    (pattern : Pattern) :
    (∀ path : RelativePath,
      isMatch path.text pattern.text = true ↔ pattern.Covers path) ↔
      pattern.IsFaithful := by
  constructor
  · intro hmatch
    by_contra hnot
    simp only [Pattern.IsFaithful, not_or] at hnot
    obtain ⟨hdepth, hhere, hparent, hnone⟩ := hnot
    rw [not_not] at hdepth
    obtain ⟨before, after, hsegments, hbefore⟩ :=
      List.eq_append_cons_of_mem hdepth
    have hafter : ∀ hliteral : ∀ segment ∈ before, Glob.IsLiteral segment,
        ¬(after = [] ∨ after = [anyDepth] ∨
          anyDepth ∉ after ∧ (before = [] ∨ after ≠ [[Glob.star]])) :=
      fun hliteral h => hnone ⟨before, after, hsegments, hliteral, h⟩
    by_cases hliteral : ∀ segment ∈ before, Glob.IsLiteral segment
    · have hcases := hafter hliteral
      simp only [not_or, not_and, ne_eq, not_not] at hcases
      obtain ⟨-, hother, hstar⟩ := hcases
      by_cases hmem : anyDepth ∈ after
      · obtain ⟨path, hcovers, hnomatch⟩ := exists_covers_not_isMatch_of_mem
          hsegments hhere hparent hliteral hmem hother
        exact hnomatch ((hmatch path).mpr hcovers)
      · obtain ⟨hne, hafter⟩ := hstar hmem
        obtain ⟨path, hmatches, hnot⟩ := exists_isMatch_not_covers
          hsegments hhere hparent hliteral hne hafter
        exact hnot ((hmatch path).mp hmatches)
    · obtain ⟨path, hcovers, hnomatch⟩ :=
        exists_covers_not_isMatch_of_not_isLiteral
          hsegments hhere hparent hbefore hliteral
      exact hnomatch ((hmatch path).mpr hcovers)
  · rintro (hdepth | hhere | hparent | ⟨before, after, hsegments, hliteral, hafter⟩)
      path
    · exact isMatch_iff_covers_of_notMem hdepth path
    · exact isMatch_iff_covers_of_not_isProper hhere (by decide)
        (fun h => h.2.1 rfl) path
    · exact isMatch_iff_covers_of_not_isProper hparent (by decide)
        (fun h => h.2.2 rfl) path
    · exact isMatch_iff_covers_of_isLiteral hsegments hliteral hafter path

/-- Everything below some directory. -/
def belowAny : Pattern :=
  ⟨"*/**", by decide⟩

/-- Two gaps of any depth. -/
def twoGaps : Pattern :=
  ⟨"a/**/b/**/c", by decide⟩

/-- Everything below one directory, segment by segment. -/
def belowOne : Pattern :=
  ⟨"css/**/*", by decide⟩

/-- None of these three patterns is faithful, each for a reason of its own. -/
theorem isMatch_ne_covers :
    (belowAny.Covers ⟨"a/b", by decide⟩ ∧ isMatch "a/b" "*/**" = false) ∧
    (twoGaps.Covers ⟨"a/b/c", by decide⟩ ∧
      isMatch "a/b/c" "a/**/b/**/c" = false) ∧
    (¬belowOne.Covers ⟨"css", by decide⟩ ∧
      isMatch "css" "css/**/*" = true) := by
  refine ⟨⟨?_, by decide +kernel⟩, ⟨?_, by decide +kernel⟩, ?_,
    by decide +kernel⟩
  · have hsegments : belowAny.segments = [[Glob.star], anyDepth] := by
      decide +kernel
    left
    rw [hsegments]
    apply Spans.segment (by decide) (by decide +kernel)
    exact Spans.skip (Spans.stop Spans.nil)
  · left
    apply Spans.segment (by decide) (by decide +kernel)
    apply Spans.stop
    apply Spans.segment (by decide) (by decide +kernel)
    apply Spans.stop
    exact Spans.segment (by decide) (by decide +kernel) Spans.nil
  · have hsegments : belowOne.segments =
        [Text.ofString "css"] ++ anyDepth :: [[Glob.star]] := by
      decide +kernel
    rw [Pattern.covers_iff_of_isLiteral hsegments (by decide +kernel)]
    rintro ⟨rest, hrest, tail, htail, hspans⟩
    have hnil : rest = [] := (List.cons.inj hrest).2.symm
    rw [hnil, List.suffix_nil] at htail
    rw [spans_iff_matchesEach (by decide)] at hspans
    exact hspans.ne_nil (List.cons_ne_nil _ _) htail

end Exclude

end AssetMinifier
