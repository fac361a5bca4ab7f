import AssetMinifier.Proofs.Build.Outcome

/-!
# Dry runs

A build that writes nothing tells what the build that writes will do.  Writing
can fail where a dry run does not, but no copy that is written influences what
is read, listed or printed after it.
-/

namespace AssetMinifier.Builder

open FileSystem

/-- The same builder, which writes nothing if `dry` holds. -/
def withDryRun (b : Builder) (dry : Bool) : Builder :=
  { b with config := { b.config with dryRun := dry } }

theorem discover_withDryRun
    (b : Builder) (dry : Bool) (fs : FileSystem) :
    (b.withDryRun dry).discover fs = b.discover fs :=
  rfl

/-- A build ends with an error at the source with number `i`: the sources
before it went well. -/
structure FailsOn (b : Builder) (fs : FileSystem) (i : Nat) (e : BuildError) :
    Prop where
  error_build : (b.build fs).error = some e
  error_before :
    (b.minifyAll fs Summary.empty ((b.discover fs).take i)).error = none
  error_source : ∃ source, (b.discover fs)[i]? = some source ∧
    (b.minifyFile
      (b.minifyAll fs Summary.empty ((b.discover fs).take i)).fileSystem
      source).error = some e

theorem error_minifyAll_eq_some_iff
    {b : Builder} {fs : FileSystem} {summary : Summary} {sources : List Text}
    {e : BuildError} :
    (b.minifyAll fs summary sources).error = some e ↔
      ∃ i source, sources[i]? = some source ∧
        (b.minifyAll fs summary (sources.take i)).error = none ∧
        (b.minifyFile (b.minifyAll fs summary (sources.take i)).fileSystem
          source).error = some e := by
  induction sources generalizing fs summary with
  | nil => simp [minifyAll]
  | cons first sources ih =>
      cases hfirst : (b.minifyFile fs first).error with
      | some e' =>
          constructor
          · intro h
            refine ⟨0, first, rfl, rfl, ?_⟩
            simpa [minifyAll, hfirst] using h
          · rintro ⟨i, source, hi, hbefore, herror⟩
            cases i with
            | zero =>
                cases hi
                simpa [minifyAll, hfirst] using herror
            | succ i => simp [minifyAll, hfirst] at hbefore
      | none =>
          constructor
          · intro h
            simp only [minifyAll, hfirst] at h
            obtain ⟨i, source, hi, hbefore, herror⟩ := ih.mp h
            refine ⟨i + 1, source, hi, ?_, ?_⟩
            · simpa [minifyAll, hfirst] using hbefore
            · simpa [minifyAll, hfirst] using herror
          · rintro ⟨i, source, hi, hbefore, herror⟩
            cases i with
            | zero =>
                cases hi
                simp [minifyAll, hfirst] at herror
            | succ i =>
                simp only [List.take_succ_cons, minifyAll, hfirst]
                  at hbefore herror
                simp only [minifyAll, hfirst]
                exact ih.mpr ⟨i, source, hi, hbefore, herror⟩

/-! ## One file -/

variable {b : Builder} {fs : FileSystem} {source : Text}

/-- A source that fails in a dry run fails in the same way when its copy is to
be written. -/
theorem error_minifyFile_of_dryRun
    {e : BuildError}
    (h : ((b.withDryRun true).minifyFile fs source).error = some e) :
    ((b.withDryRun false).minifyFile fs source).error = some e := by
  rw [minifyFile] at h ⊢
  cases hread : fs.read source with
  | error cause => simpa [hread] using h
  | ok content =>
      cases hminify : b.engine.minify (Kind.ofPath source) content with
      | error cause => simpa [hread, withDryRun, hminify] using h
      | ok output => simp [hread, withDryRun, hminify] at h

/-- A source that goes well goes well in a dry run, with the same result. -/
theorem minifyFile_of_error_eq_none
    (h : ((b.withDryRun false).minifyFile fs source).error = none) :
    ((b.withDryRun true).minifyFile fs source).error = none ∧
      ((b.withDryRun true).minifyFile fs source).result =
        ((b.withDryRun false).minifyFile fs source).result := by
  have hcases := minified_minifyFile (b.withDryRun false) fs source
  generalize (b.withDryRun false).minifyFile fs source = attempt at h hcases ⊢
  cases hcases with
  | failed _ _ => cases h
  | reported _ _ hdry => cases hdry
  | opened hread hminify _ _ =>
      rw [minifyFile, hread]
      simp only [withDryRun] at hminify
      simp [withDryRun, hminify, Result.ofTexts]

/-! ## Whole builds -/

theorem fileSystem_dryRun_minifyAll
    (b : Builder) (fs : FileSystem) (summary : Summary) (sources : List Text) :
    ((b.withDryRun true).minifyAll fs summary sources).fileSystem = fs :=
  fileSystem_minifyAll_eq_self
    (fun source _ => fileSystem_minifyFile_of_dryRun rfl fs source) summary

/-- If the dry run fails on a source, the build that writes fails on it with
the same error, or on a source before it. -/
theorem exists_failsOn_of_dryRun
    (hlinks : fs.isLinkFree) {i : Nat} {e : BuildError}
    (h : (b.withDryRun true).FailsOn fs i e) :
    ∃ j e', (b.withDryRun false).FailsOn fs j e' ∧
      (j < i ∨ j = i ∧ e' = e) := by
  obtain ⟨source, hi, herror⟩ := h.error_source
  rw [fileSystem_dryRun_minifyAll] at herror
  rw [discover_withDryRun] at hi
  obtain ⟨hsource, hfound⟩ :=
    found_of_discover b fs source (List.mem_of_getElem? hi)
  cases hbefore : ((b.withDryRun false).minifyAll fs Summary.empty
      ((b.discover fs).take i)).error with
  | some e' =>
      -- A copy could not be written before the dry run fails.
      obtain ⟨j, source', hj, hbefore', herror'⟩ :=
        error_minifyAll_eq_some_iff.mp hbefore
      rw [List.getElem?_take] at hj
      split at hj
      · rename_i hlt
        rw [List.take_take, Nat.min_eq_left (Nat.le_of_lt hlt)]
          at hbefore' herror'
        refine ⟨j, e', ⟨?_, hbefore', source', hj, herror'⟩, Or.inl hlt⟩
        exact error_minifyAll_eq_some_iff.mpr
          ⟨j, source', hj, hbefore', herror'⟩
      · cases hj
  | none =>
      have hsources : ∀ s ∈ (b.discover fs).take i, Asset.isSource s :=
        fun s hs => isSource_of_mem_discover (List.mem_of_mem_take hs)
      have hsame := sameSources_minifyAll hlinks (b.withDryRun false) hsources
        Summary.empty
      have hlater := (minifyFile_congr hsame (b.withDryRun false) hsource
        hfound).1
      have hfails : ((b.withDryRun false).minifyFile
          ((b.withDryRun false).minifyAll fs Summary.empty
            ((b.discover fs).take i)).fileSystem source).error = some e := by
        rw [← hlater]
        exact error_minifyFile_of_dryRun herror
      refine ⟨i, e, ⟨?_, hbefore, source, hi, hfails⟩, Or.inr ⟨rfl, rfl⟩⟩
      exact error_minifyAll_eq_some_iff.mpr ⟨i, source, hi, hbefore, hfails⟩

/-- A dry run leaves everything as it is.  Without links it predicts the build
that writes: if that one goes well, the dry run goes well with the same totals
and prints the same; if the dry run fails on a source, that one fails on it with
the same error, or on a source before it. -/
theorem dryRun_predicts_build
    (b : Builder) (fs : FileSystem) :
    ((b.withDryRun true).build fs).fileSystem = fs ∧
      (fs.isLinkFree →
        (((b.withDryRun false).build fs).error = none →
          ((b.withDryRun true).build fs).error = none ∧
          ((b.withDryRun true).build fs).summary =
            ((b.withDryRun false).build fs).summary ∧
          ((b.withDryRun true).build fs).output =
            ((b.withDryRun false).build fs).output) ∧
        ∀ i e, (b.withDryRun true).FailsOn fs i e →
          ∃ j e', (b.withDryRun false).FailsOn fs j e' ∧
            (j < i ∨ j = i ∧ e' = e)) := by
  refine ⟨fileSystem_dryRun_minifyAll b fs _ _, fun hlinks => ⟨?_, ?_⟩⟩
  · intro h
    have hfound := found_of_discover b fs
    have hwell := (error_minifyAll_eq_none_iff hfound (.refl hlinks)
      Summary.empty).mp h
    have hsame : ∀ source ∈ b.discover fs,
        ((b.withDryRun true).minifyFile fs source).error =
            ((b.withDryRun false).minifyFile fs source).error ∧
          ((b.withDryRun true).minifyFile fs source).result =
            ((b.withDryRun false).minifyFile fs source).result := by
      intro source hsource
      obtain ⟨hnone, hresult⟩ :=
        minifyFile_of_error_eq_none (hwell source hsource)
      exact ⟨hnone.trans (hwell source hsource).symm, hresult⟩
    have hquiet : (b.withDryRun true).quiet = (b.withDryRun false).quiet := rfl
    obtain ⟨hsummary, houtput, herror⟩ :=
      minifyAll_congr hquiet hfound hsame (.refl hlinks) (.refl hlinks)
        Summary.empty
    refine ⟨herror.trans h, hsummary, ?_⟩
    rw [output_build, output_build, discover_withDryRun, discover_withDryRun,
      houtput]
    rfl
  · intro i e h
    exact exists_failsOn_of_dryRun hlinks h

/-- The script of `blockedSite` is what its dry run fails on, but the build that
writes fails before it. -/
theorem dryRun_predicts_build_blockedSite :
    ∃ e, ((plainBuilder "/s").withDryRun true).FailsOn blockedSite 2 e ∧
      (∃ j e', ((plainBuilder "/s").withDryRun false).FailsOn blockedSite j e' ∧
        (j < 2 ∨ j = 2 ∧ e' = e)) ∧
      (((plainBuilder "/s").withDryRun false).build plainSite).error = none ∧
      (((plainBuilder "/s").withDryRun true).build plainSite).output =
        (((plainBuilder "/s").withDryRun false).build plainSite).output := by
  have hfails : ((plainBuilder "/s").withDryRun true).FailsOn blockedSite 2
      (.unreadable "/s/js/x.js" ⟨"open", "/s/js/x.js", .denied⟩) :=
    ⟨by decide +kernel, by decide +kernel, "/s/js/x.js", by decide +kernel,
      by decide +kernel⟩
  have hwell : (((plainBuilder "/s").withDryRun false).build plainSite).error =
      none := by
    decide +kernel
  obtain ⟨-, hblocked⟩ := dryRun_predicts_build (plainBuilder "/s") blockedSite
  obtain ⟨-, hplain⟩ := dryRun_predicts_build (plainBuilder "/s") plainSite
  exact ⟨_, hfails, (hblocked (by decide)).2 2 _ hfails, hwell,
    ((hplain (by decide)).1 hwell).2.2⟩

end AssetMinifier.Builder
