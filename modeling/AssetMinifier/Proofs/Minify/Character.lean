import AssetMinifier.Proofs.Minify.LineComment
import AssetMinifier.Proofs.Minify.Script
import AssetMinifier.Proofs.Minify.Stylesheet
import AssetMinifier.Proofs.Text.Trim
import AssetMinifier.Proofs.Text.Valid

/-!
# Characters kept whole

The passes over comments look at bytes, and all other passes at runes.  None of
them cuts a character: what a pass makes of a text in UTF-8 is in UTF-8 again,
and consists of characters of that text, in their order, and of blanks.
-/

namespace AssetMinifier

/-! ## Thinned runes -/

namespace Rune

/-- `Thinned rs qs` says that `qs` consists of runes of `rs`, in their order,
and of blanks. -/
def Thinned (rs qs : List Rune) : Prop :=
  (qs.filter (· ≠ blank)).Sublist rs

theorem thinned_of_sublist
    {rs qs : List Rune} (h : qs.Sublist rs) :
    Thinned rs qs :=
  List.filter_sublist.trans h

namespace Thinned

variable {rs qs : List Rune}

theorem trans
    {ps : List Rune} (h : Thinned rs qs) (h' : Thinned qs ps) :
    Thinned rs ps := by
  have hsub := (h'.filter (· ≠ blank)).trans h
  simp only [List.filter_filter, Bool.and_self] at hsub
  exact hsub

theorem append
    {rs' qs' : List Rune} (h : Thinned rs qs) (h' : Thinned rs' qs') :
    Thinned (rs ++ rs') (qs ++ qs') := by
  rw [Thinned, List.filter_append]
  exact List.Sublist.append h h'

theorem skip
    (h : Thinned rs qs) (r : Rune) :
    Thinned (r :: rs) qs :=
  List.Sublist.cons r h

theorem keep
    (h : Thinned rs qs) (r : Rune) :
    Thinned (r :: rs) (r :: qs) :=
  append (thinned_of_sublist (List.Sublist.refl [r])) h

theorem blank_cons
    (h : Thinned rs qs) :
    Thinned rs (blank :: qs) := by
  rwa [Thinned, List.filter_cons_of_neg (by simp)]

/-- Every rune that is left is a blank or a rune of the source. -/
theorem eq_blank_or_mem
    (h : Thinned rs qs) {r : Rune} (hr : r ∈ qs) :
    r = blank ∨ r ∈ rs := by
  by_cases hblank : r = blank
  · exact Or.inl hblank
  · exact Or.inr (h.subset (List.mem_filter.mpr ⟨hr, by simpa using hblank⟩))

end Thinned

end Rune

/-! ## Thinned texts -/

namespace Text

/-- `Thinned t u` says that both texts are in UTF-8, and that `u` consists of
characters of `t`, in their order, and of blanks. -/
def Thinned (t u : Text) : Prop :=
  ∃ s out : String, t = ofString s ∧ u = ofString out ∧
    (out.toList.filter (· ≠ ' ')).Sublist s.toList

theorem thinned_iff
    {t u : Text} :
    Thinned t u ↔ t.IsValid ∧ u.IsValid ∧ Rune.Thinned t.runes u.runes := by
  have hblank (cs : List Char) :
      (cs.map Rune.char).filter (· ≠ Rune.blank) =
        (cs.filter (· ≠ ' ')).map Rune.char := by
    rw [List.filter_map]
    congr 1
    apply List.filter_congr
    intro c _
    simp [Rune.blank]
  have hchar (cs : List Char) :
      (cs.map Rune.char).filterMap Rune.char? = cs := by
    rw [List.filterMap_map]
    exact List.filterMap_some
  constructor
  · rintro ⟨s, out, rfl, rfl, h⟩
    refine ⟨isValid_iff_exists_ofString.mpr ⟨s, rfl⟩,
      isValid_iff_exists_ofString.mpr ⟨out, rfl⟩, ?_⟩
    rw [runes_ofString, runes_ofString, Rune.Thinned, Rune.ofString,
      Rune.ofString, hblank]
    exact h.map Rune.char
  · rintro ⟨ht, hu, h⟩
    obtain ⟨s, rfl⟩ := isValid_iff_exists_ofString.mp ht
    obtain ⟨out, rfl⟩ := isValid_iff_exists_ofString.mp hu
    refine ⟨s, out, rfl, rfl, ?_⟩
    rw [runes_ofString, runes_ofString, Rune.Thinned, Rune.ofString,
      Rune.ofString, hblank] at h
    have hsub := h.filterMap Rune.char?
    rwa [hchar, hchar] at hsub

theorem thinned_self
    {t : Text} (h : t.IsValid) :
    Thinned t t :=
  thinned_iff.mpr ⟨h, h, Rune.thinned_of_sublist (List.Sublist.refl _)⟩

namespace Thinned

variable {t u : Text}

theorem isValid
    (h : Thinned t u) :
    u.IsValid :=
  (thinned_iff.mp h).2.1

theorem trans
    {v : Text} (h : Thinned t u) (h' : Thinned u v) :
    Thinned t v := by
  rw [thinned_iff] at h h' ⊢
  exact ⟨h.1, h'.2.1, h.2.2.trans h'.2.2⟩

theorem append
    {t' u' : Text} (h : Thinned t u) (h' : Thinned t' u') :
    Thinned (t ++ t') (u ++ u') := by
  rw [thinned_iff] at h h' ⊢
  refine ⟨h.1.append h'.1, h.2.1.append h'.2.1, ?_⟩
  rw [runes_append h.1, runes_append h.2.1]
  exact h.2.2.append h'.2.2

/-- Whole characters may go from the front. -/
theorem append_left
    (h : Thinned t u) {s : Text} (hs : s.IsValid) :
    Thinned (s ++ t) u := by
  have hnone : Thinned s [] :=
    thinned_iff.mpr ⟨hs, isValid_nil, List.nil_sublist _⟩
  exact hnone.append h

end Thinned

/-- A pass over runes that thins them thins the text. -/
theorem thinned_mapRunes
    {f : List Rune → List Rune} {t : Text} (ht : t.IsValid)
    (hf : Rune.Thinned t.runes (f t.runes)) :
    Thinned t (mapRunes f t) := by
  have hchars : ∀ r ∈ f t.runes, r.char?.isSome := by
    intro r hr
    rcases hf.eq_blank_or_mem hr with rfl | hmem
    · rfl
    · exact isValid_iff.mp ht r hmem
  have hrunes : (mapRunes f t).runes = f t.runes :=
    legible_of_isSome_char? hchars
  rw [thinned_iff, hrunes]
  exact ⟨ht, isValid_ofRunes hchars, hf⟩

end Text

/-! ## Comments -/

namespace Comment

open Text (IsValid Thinned)

theorem utf8EncodeChar_slash : String.utf8EncodeChar '/' = [slash] :=
  rfl

theorem utf8EncodeChar_star : String.utf8EncodeChar '*' = [star] :=
  rfl

theorem utf8EncodeChar_newline : String.utf8EncodeChar '\n' = [newline] :=
  rfl

/-- A block comment starts and ends with a character, so it has whole
characters only. -/
theorem isValid_append_block_iff
    {before body after : Text} :
    IsValid (before ++ slash :: star :: (body ++ star :: slash :: after)) ↔
      before.IsValid ∧ body.IsValid ∧ after.IsValid := by
  rw [Text.isValid_append_cons_iff utf8EncodeChar_slash,
    Text.isValid_cons_iff utf8EncodeChar_star,
    Text.isValid_append_cons_iff utf8EncodeChar_star,
    Text.isValid_cons_iff utf8EncodeChar_slash]

theorem WithoutBlocks.thinned
    {s t : Text} (h : WithoutBlocks s t) (hs : s.IsValid) :
    Thinned s t := by
  induction h with
  | keep h => exact Text.thinned_self hs
  | @cut before body after rest hbefore hbody hafter ih =>
      obtain ⟨hbeforeValid, hbodyValid, hafterValid⟩ :=
        isValid_append_block_iff.mp hs
      have hcomment : IsValid (slash :: star :: (body ++ [star, slash])) :=
        (@isValid_append_block_iff [] body []).mpr
          ⟨Text.isValid_nil, hbodyValid, Text.isValid_nil⟩
      have hrest := (ih hafterValid).append_left hcomment
      have hsplit : slash :: star :: (body ++ [star, slash]) ++ after =
          slash :: star :: (body ++ star :: slash :: after) := by
        simp
      rw [hsplit] at hrest
      exact (Text.thinned_self hbeforeValid).append hrest

/-- The end of a line is the end of a character. -/
theorem isValid_of_isValid_append
    {body after : Text} (hafter : ∀ b ∈ after.head?, b = newline)
    (h : IsValid (body ++ after)) :
    body.IsValid ∧ after.IsValid := by
  cases after with
  | nil =>
      rw [List.append_nil] at h
      exact ⟨h, Text.isValid_nil⟩
  | cons b after =>
      obtain rfl := hafter b rfl
      rw [Text.isValid_append_cons_iff utf8EncodeChar_newline] at h
      rwa [Text.isValid_cons_iff utf8EncodeChar_newline]

theorem Erased.thinned
    {before s t : Text} (h : Erased lineComment before s t)
    (hs : s.IsValid) :
    Thinned s t := by
  induction h with
  | keep hnone => exact Text.thinned_self hs
  | cut hskipped hfound hafter ih =>
      obtain ⟨-, body, rfl, -, hline⟩ := hfound
      rw [List.cons_append, List.cons_append,
        Text.isValid_append_cons_iff utf8EncodeChar_slash,
        Text.isValid_cons_iff utf8EncodeChar_slash] at hs
      obtain ⟨hskippedValid, hrest⟩ := hs
      obtain ⟨hbodyValid, hafterValid⟩ := isValid_of_isValid_append hline hrest
      have hcomment : IsValid (slash :: slash :: body) := by
        rw [Text.isValid_cons_iff utf8EncodeChar_slash,
          Text.isValid_cons_iff utf8EncodeChar_slash]
        exact hbodyValid
      exact (Text.thinned_self hskippedValid).append
        ((ih hafterValid).append_left hcomment)

end Comment

/-! ## White space, semicolons and keywords -/

namespace Spacing

theorem thinned_collapseFrom
    (inRun : Bool) (rs : List Rune) :
    Rune.Thinned rs (collapseFrom inRun rs) := by
  induction rs generalizing inRun with
  | nil => exact List.nil_sublist _
  | cons r rs ih =>
      rw [collapseFrom]
      split
      · split
        · exact (ih true).skip r
        · exact ((ih true).skip r).blank_cons
      · exact (ih false).keep r

theorem tightenFrom_sublist
    (opens closes : Rune → Bool) (afterOpen : Bool) (rs : List Rune) :
    (tightenFrom opens closes afterOpen rs).Sublist rs := by
  induction rs generalizing afterOpen with
  | nil => exact List.nil_sublist _
  | cons r rs ih =>
      rw [tightenFrom]
      split
      · split
        · exact (ih afterOpen).cons r
        · exact (ih afterOpen).cons_cons r
      · exact (ih (opens r)).cons_cons r

end Spacing

theorem Stylesheet.dropSemicolons_sublist
    (rs : List Rune) :
    (dropSemicolons rs).Sublist rs := by
  induction rs with
  | nil => exact List.nil_sublist _
  | cons r rs ih =>
      rw [dropSemicolons]
      split
      · exact ih.cons r
      · exact ih.cons_cons r

theorem Keyword.thinned_detachFrom
    (p : List Rune → Bool) (word rs : List Rune) :
    Rune.Thinned rs (detachFrom p word rs) := by
  induction rs generalizing word with
  | nil => exact List.nil_sublist _
  | cons r rs ih =>
      rw [detachFrom]
      split
      · exact (ih (word ++ [r])).keep r
      · cases r.isBoundary && p word with
        | false => exact (ih []).keep r
        | true => exact ((ih []).keep r).blank_cons

/-! ## All passes -/

namespace Pass

/-- A pass keeps characters whole if it thins every text in UTF-8. -/
def KeepsCharacters (pass : Pass) : Prop :=
  ∀ t : Text, t.IsValid → Text.Thinned t (pass t)

theorem keepsCharacters_mapRunes
    {f : List Rune → List Rune} (hf : ∀ rs, Rune.Thinned rs (f rs)) :
    KeepsCharacters (Text.mapRunes f) :=
  fun _ ht => Text.thinned_mapRunes ht (hf _)

theorem keepsCharacters_mapRunes_of_sublist
    {f : List Rune → List Rune} (hf : ∀ rs, (f rs).Sublist rs) :
    KeepsCharacters (Text.mapRunes f) :=
  keepsCharacters_mapRunes fun rs => Rune.thinned_of_sublist (hf rs)

theorem keepsCharacters_stripLines : KeepsCharacters Comment.stripLines :=
  fun t ht => (Comment.erased_stripLinesFrom [] t).thinned ht

theorem keepsCharacters_stripBlocks : KeepsCharacters Comment.stripBlocks :=
  fun t ht => (Comment.withoutBlocks_stripBlocks t).thinned ht

theorem keepsCharacters_collapse :
    KeepsCharacters (Text.mapRunes Spacing.collapse) :=
  keepsCharacters_mapRunes (Spacing.thinned_collapseFrom false)

theorem keepsCharacters_tighten
    (opens closes : Rune → Bool) :
    KeepsCharacters (Text.mapRunes (Spacing.tighten opens closes)) :=
  keepsCharacters_mapRunes_of_sublist
    (Spacing.tightenFrom_sublist opens closes false)

theorem keepsCharacters_trim : KeepsCharacters Text.trim :=
  keepsCharacters_mapRunes_of_sublist fun rs =>
    (Text.trimRunes_isInfix rs).sublist

theorem keepsCharacters_separate
    {keyword : Text} (h : Keyword.IsProper keyword.runes) :
    KeepsCharacters (Keyword.separate keyword) := by
  apply keepsCharacters_mapRunes
  intro rs
  rw [Keyword.separateFrom_eq_detachFrom h rfl]
  exact Keyword.thinned_detachFrom _ [] rs

/-- Every text on the way through the passes is made of whole characters of
the first one. -/
theorem thinned_of_mem_stages
    {passes : List Pass} (hpasses : ∀ pass ∈ passes, KeepsCharacters pass)
    {source : Text} (hsource : source.IsValid) :
    ∀ t ∈ stages passes source, Text.Thinned source t := by
  induction passes generalizing source with
  | nil => simp [stages]
  | cons pass passes ih =>
      rw [List.forall_mem_cons] at hpasses
      have hfirst := hpasses.1 source hsource
      rw [stages, List.forall_mem_cons]
      refine ⟨hfirst, ?_⟩
      intro t ht
      exact hfirst.trans (ih hpasses.2 hfirst.isValid t ht)

/-- The result is the last text on the way. -/
theorem run_mem_stages
    (passes : List Pass) (source : Text) :
    run passes source ∈ source :: stages passes source := by
  induction passes generalizing source with
  | nil => exact List.mem_cons_self
  | cons pass passes ih => exact List.mem_cons_of_mem source (ih (pass source))

theorem keepsCharacters_run
    {passes : List Pass} (hpasses : ∀ pass ∈ passes, KeepsCharacters pass) :
    KeepsCharacters (run passes) := by
  intro source hsource
  rcases List.mem_cons.mp (run_mem_stages passes source) with hself | hmem
  · rw [hself]
    exact Text.thinned_self hsource
  · exact thinned_of_mem_stages hpasses hsource _ hmem

end Pass

theorem Stylesheet.keepsCharacters_of_mem_passes :
    ∀ pass ∈ passes, Pass.KeepsCharacters pass := by
  simp only [passes, List.forall_mem_cons]
  exact ⟨Pass.keepsCharacters_stripBlocks, Pass.keepsCharacters_collapse,
    Pass.keepsCharacters_tighten _ _, Pass.keepsCharacters_tighten _ _,
    Pass.keepsCharacters_tighten _ _,
    Pass.keepsCharacters_mapRunes_of_sublist dropSemicolons_sublist,
    Pass.keepsCharacters_trim, by simp⟩

theorem Script.keepsCharacters_of_mem_passes :
    ∀ pass ∈ passes, Pass.KeepsCharacters pass := by
  simp only [passes, List.forall_mem_append, List.forall_mem_cons,
    List.forall_mem_map]
  refine ⟨⟨⟨Pass.keepsCharacters_stripLines, Pass.keepsCharacters_stripBlocks,
    Pass.keepsCharacters_collapse, Pass.keepsCharacters_tighten _ _, by simp⟩,
    ?_⟩, Pass.keepsCharacters_trim, by simp⟩
  intro keyword hkeyword
  exact Pass.keepsCharacters_separate (isProper_keywords keyword hkeyword)

/-- Whatever text in UTF-8 is minified, the results are in UTF-8, and so is
every text on the way.  No pass cuts a character: it thins every text in
UTF-8. -/
theorem Pass.isValid_minify_and_keepsCharacters
    {source : Text} (h : source.IsValid) :
    (Stylesheet.minify source).IsValid ∧
      (Script.minify source).IsValid ∧
      (∀ t ∈ stages Stylesheet.passes source ++ stages Script.passes source,
        t.IsValid) ∧
      ∀ pass ∈ Stylesheet.passes ++ Script.passes, KeepsCharacters pass := by
  have hstylesheet := Stylesheet.keepsCharacters_of_mem_passes
  have hscript := Script.keepsCharacters_of_mem_passes
  refine ⟨(keepsCharacters_run hstylesheet source h).isValid,
    (keepsCharacters_run hscript source h).isValid, ?_,
    List.forall_mem_append.mpr ⟨hstylesheet, hscript⟩⟩
  intro t ht
  rcases List.mem_append.mp ht with ht | ht
  · exact (thinned_of_mem_stages hstylesheet h t ht).isValid
  · exact (thinned_of_mem_stages hscript h t ht).isValid

/-- A blank of two bytes goes, a comment ends behind a character of two bytes,
and a blank is put before a quote of three bytes. -/
theorem Pass.isValid_minify_and_keepsCharacters_quote :
    Text.IsValid (Text.ofString "é\u00a0= ß // ü\nreturn„x") ∧
      Script.minify (Text.ofString "é\u00a0= ß // ü\nreturn„x") =
        Text.ofString "é=ß return „x" ∧
      Text.IsValid (Script.minify (Text.ofString "é\u00a0= ß // ü\nreturn„x")) := by
  have hsource : Text.IsValid (Text.ofString "é\u00a0= ß // ü\nreturn„x") := by
    decide +kernel
  exact ⟨hsource, by decide +kernel,
    (isValid_minify_and_keepsCharacters hsource).2.1⟩

end AssetMinifier
