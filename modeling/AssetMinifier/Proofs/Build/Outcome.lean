import AssetMinifier.Proofs.Build.Copy
import Mathlib.Algebra.GroupWithZero.Nat

/-!
# What a build leaves behind

A build makes the copies of its sources in order up to the first source that
fails.  Nothing else changes, but the copy at which the build stops may be cut
short.  After a build that went well, another one finds the same sources, reports
the same and changes nothing.  All of this is said of file systems in which a
file has one name, so that no copy is another name of a source.
-/

namespace AssetMinifier

open FileSystem

namespace Copy

variable {b : Builder} {fs : FileSystem}

end Copy

/-- A site with a stylesheet and a script. -/
def plainSite : FileSystem where
  entries :=
    [(["s"], .directory), (["s", "css"], .directory), (["s", "js"], .directory),
      (["s", "css", "a.css"], .file "a { }"),
      (["s", "js", "x.js"], .file "var x")]
  workingDirectory := []

/-- A site with a directory where the copy of the second stylesheet goes, and
with a script that cannot be read. -/
def blockedSite : FileSystem where
  entries :=
    [(["s"], .directory), (["s", "css"], .directory), (["s", "js"], .directory),
      (["s", "css", "a.css"], .file "a { }"),
      (["s", "css", "b.css"], .file "b { }"),
      (["s", "css", "b.min.css"], .directory),
      (["s", "js", "x.js"], .file "var x")]
  workingDirectory := []
  defects := [(["s", "js", "x.js"], .unreadable)]

namespace Builder

variable {b : Builder} {fs : FileSystem}

theorem output_build
    (b : Builder) (fs : FileSystem) :
    (b.build fs).output =
      b.report (b.opening (b.discover fs)) ++
        (b.minifyAll fs Summary.empty (b.discover fs)).output :=
  rfl

theorem found_of_discover
    (b : Builder) (fs : FileSystem) :
    ∀ source ∈ b.discover fs, Asset.isSource source ∧ fs.pathExists source :=
  fun _ h => ⟨isSource_of_mem_discover h, pathExists_of_mem_discover h⟩

theorem sameSources_minifyAll
    {fs : FileSystem} (hlinks : fs.isLinkFree) (b : Builder)
    {sources : List Text} (hsources : ∀ source ∈ sources, Asset.isSource source)
    (summary : Summary) :
    SameSources fs (b.minifyAll fs summary sources).fileSystem := by
  induction sources generalizing fs summary with
  | nil => exact .refl hlinks
  | cons source sources ih =>
      have hfirst := sameSources_minifyFile hlinks b (hsources source (by simp))
      simp only [minifyAll]
      cases (b.minifyFile fs source).error with
      | some e => exact hfirst
      | none =>
          exact hfirst.trans (ih hfirst.linkFree_right
            (fun s hs => hsources s (List.mem_cons_of_mem _ hs)) _)

theorem sameSources_build
    (hlinks : fs.isLinkFree) (b : Builder) :
    SameSources fs (b.build fs).fileSystem :=
  sameSources_minifyAll hlinks b (fun _ => isSource_of_mem_discover) Summary.empty

/-! ## The source that fails -/

/-- A source that fails changes nothing, unless its copy is cut short. -/
theorem fileSystem_minifyFile_of_error
    {fs fs' : FileSystem} (h : SameSources fs fs') (hwrites : b.config.dryRun = false)
    {source : Text} (hsource : Asset.isSource source) {e : BuildError}
    (herror : (b.minifyFile fs' source).error = some e) :
    ((∀ target, e ≠ .cutShort target) ∧
        (b.minifyFile fs' source).fileSystem = fs') ∨
      ∃ (c : Copy b fs) (n : Nat), c.source = source ∧
        fs.room? c.location = some n ∧ n < c.output.length ∧
        e = .cutShort (Asset.target source) ∧
        (b.minifyFile fs' source).fileSystem =
          fs'.put c.location (.file (c.output.take n)) := by
  rcases minifyFile_cases h hwrites hsource with ⟨c, rfl⟩ | ⟨hfs, e', he', hne⟩
  · have hattempt := minifyFile_of_copy h hwrites c
    rw [hattempt] at herror
    have hcut : c.kept ≠ c.output := by
      intro hkept
      rw [Copy.error?_eq_none_iff.mpr hkept] at herror
      cases herror
    obtain ⟨n, hroom, hn, hkept⟩ :=
      (fitting_cases fs c.location c.output).resolve_left hcut
    rw [Copy.error?, if_neg hcut] at herror
    refine Or.inr ⟨c, n, rfl, hroom, hn, (Option.some.inj herror).symm, ?_⟩
    rw [hattempt, ← hkept]
    rfl
  · rw [he'] at herror
    cases herror
    exact Or.inl ⟨hne, hfs⟩

/-- The source at which it stops has failed: it changed nothing, or its copy was
cut short. -/
theorem Progress.stop
    {fs' : FileSystem} {summary : Summary} {sources rest : List Text}
    {before copies : List (Copy b fs)}
    (h : Progress fs' summary sources before copies rest)
    (hwrites : b.config.dryRun = false)
    {source : Text} (hsource : Asset.isSource source)
    (hfound : fs.pathExists source) (hhead : rest.head? = some source) :
    ∃ e, (b.minifyAll fs' summary sources).error = some e ∧
      (((∀ target, e ≠ .cutShort target) ∧
          (b.minifyAll fs' summary sources).fileSystem =
            (b.minifyAll fs' summary (sources.take copies.length)).fileSystem) ∨
        ∃ (c : Copy b fs) (n : Nat), c.source = source ∧
          fs.room? c.location = some n ∧ n < c.output.length ∧
          e = .cutShort (Asset.target source) ∧
          (b.minifyAll fs' summary sources).fileSystem =
            (b.minifyAll fs' summary
              (sources.take copies.length)).fileSystem.put c.location
                (.file (c.output.take n))) := by
  have hsame := h.copied_length.sameSources
  have hne : (b.minifyAll fs' summary sources).error ≠ none := by
    intro hnone
    rw [h.error_eq_none_iff.mp hnone] at hhead
    cases hhead
  obtain ⟨e, he⟩ := Option.ne_none_iff_exists'.mp hne
  have herror := h.error_eq
  rw [hhead, Option.bind_some, he,
    (minifyFile_congr hsame b hsource hfound).1] at herror
  refine ⟨e, he, ?_⟩
  rw [h.fileSystem_eq source hhead]
  exact fileSystem_minifyFile_of_error hsame hwrites hsource herror.symm

/-- Two builders that agree on every source report the same, though copies may
differ when they start and while they work. -/
theorem minifyAll_congr
    {b b' : Builder} (hquiet : b.quiet = b'.quiet)
    {fs : FileSystem} {sources : List Text}
    (hfound : ∀ source ∈ sources,
      Asset.isSource source ∧ fs.pathExists source)
    (hsame : ∀ source ∈ sources,
      (b.minifyFile fs source).error = (b'.minifyFile fs source).error ∧
        (b.minifyFile fs source).result = (b'.minifyFile fs source).result)
    {g g' : FileSystem} (hg : SameSources fs g) (hg' : SameSources fs g')
    (summary : Summary) :
    (b.minifyAll g summary sources).summary =
        (b'.minifyAll g' summary sources).summary ∧
      (b.minifyAll g summary sources).output =
        (b'.minifyAll g' summary sources).output ∧
      (b.minifyAll g summary sources).error =
        (b'.minifyAll g' summary sources).error := by
  induction sources generalizing g g' summary with
  | nil => exact ⟨rfl, rfl, rfl⟩
  | cons source sources ih =>
      obtain ⟨hsource, hexists⟩ := hfound source (by simp)
      obtain ⟨herror, hresult⟩ := hsame source (by simp)
      obtain ⟨he, hr⟩ := minifyFile_congr hg b hsource hexists
      obtain ⟨he', hr'⟩ := minifyFile_congr hg' b' hsource hexists
      have herrors : (b.minifyFile g source).error =
          (b'.minifyFile g' source).error := by
        rw [← he, herror, he']
      have hresults : (b.minifyFile g source).result =
          (b'.minifyFile g' source).result := by
        rw [← hr, hresult, hr']
      have hreport : ∀ t, b.report t = b'.report t := by
        intro t
        rw [report, report, hquiet]
      obtain ⟨hsummary, houtput, hlater⟩ :=
        ih (fun s hs => hfound s (List.mem_cons_of_mem _ hs))
          (fun s hs => hsame s (List.mem_cons_of_mem _ hs))
          (hg.trans (sameSources_minifyFile hg.linkFree_right b hsource))
          (hg'.trans (sameSources_minifyFile hg'.linkFree_right b' hsource))
          (summary.add (b'.minifyFile g' source).result)
      simp only [minifyAll, herrors, hresults, hreport]
      cases (b'.minifyFile g' source).error with
      | some e => exact ⟨rfl, rfl, rfl⟩
      | none => exact ⟨hsummary, by rw [houtput], hlater⟩

/-- A build goes well if and only if every source would go well at its
start. -/
theorem error_minifyAll_eq_none_iff
    {b : Builder} {fs : FileSystem} {sources : List Text}
    (hfound : ∀ source ∈ sources,
      Asset.isSource source ∧ fs.pathExists source)
    {g : FileSystem} (hg : SameSources fs g) (summary : Summary) :
    (b.minifyAll g summary sources).error = none ↔
      ∀ source ∈ sources, (b.minifyFile fs source).error = none := by
  induction sources generalizing g summary with
  | nil => simp [minifyAll]
  | cons source sources ih =>
      obtain ⟨hsource, hexists⟩ := hfound source (by simp)
      have herror := (minifyFile_congr hg b hsource hexists).1
      have hlater := ih (fun s hs => hfound s (List.mem_cons_of_mem _ hs))
        (hg.trans (sameSources_minifyFile hg.linkFree_right b hsource))
        (summary.add (b.minifyFile g source).result)
      rw [List.forall_mem_cons, herror]
      simp only [minifyAll]
      cases (b.minifyFile g source).error with
      | some e => simp
      | none => simpa using hlater

/-- Nothing changes if no source changes anything. -/
theorem fileSystem_minifyAll_eq_self
    {b : Builder} {fs : FileSystem} {sources : List Text}
    (h : ∀ source ∈ sources, (b.minifyFile fs source).fileSystem = fs)
    (summary : Summary) :
    (b.minifyAll fs summary sources).fileSystem = fs := by
  induction sources generalizing summary with
  | nil => rfl
  | cons source sources ih =>
      have hsource := h source (by simp)
      simp only [minifyAll, hsource]
      cases (b.minifyFile fs source).error with
      | some e => rfl
      | none => exact ih (fun s hs => h s (List.mem_cons_of_mem _ hs)) _

theorem fileSystem_minifyFile_of_dryRun
    {b : Builder} (hdry : b.config.dryRun = true)
    (fs : FileSystem) (source : Text) :
    (b.minifyFile fs source).fileSystem = fs := by
  have hcases := minified_minifyFile b fs source
  generalize b.minifyFile fs source = attempt at hcases ⊢
  cases hcases with
  | failed _ _ => rfl
  | reported _ _ _ => rfl
  | opened _ _ hwrites _ =>
      rw [hdry] at hwrites
      cases hwrites

/-- A copy that was made is not changed by making it again. -/
theorem fileSystem_minifyFile_of_copied
    {b : Builder} {fs fs' : FileSystem} (hwrites : b.config.dryRun = false)
    {copies : List (Copy b fs)} (h : Copied copies fs')
    {c : Copy b fs} (hc : c ∈ copies) :
    (b.minifyFile fs' c.source).fileSystem = fs' := by
  rw [minifyFile_of_copy h.sameSources hwrites c, h.kept_eq c hc]
  exact put_eq_self c.location_ne_nil (h.node?_location c hc)

theorem fileSystem_build_build
    {b : Builder} {fs : FileSystem} (hlinks : fs.isLinkFree)
    (h : (b.build fs).error = none) :
    (b.build (b.build fs).fileSystem).fileSystem = (b.build fs).fileSystem := by
  have hsame := sameSources_build hlinks b
  cases hdry : b.config.dryRun with
  | true =>
      have hfixed : ∀ fs : FileSystem, (b.build fs).fileSystem = fs :=
        fun fs => fileSystem_minifyAll_eq_self
          (fun source _ => fileSystem_minifyFile_of_dryRun hdry fs source) _
      rw [hfixed, hfixed]
  | false =>
      obtain ⟨copies, rest, hprogress⟩ := exists_progress hdry
        (found_of_discover b fs) (Copied.nil hlinks) Summary.empty
      have hcopied := hprogress.copied_of_error_eq_none h
      refine fileSystem_minifyAll_eq_self (fun source hsource => ?_) _
      rw [← discover_eq hsame, hprogress.sources_eq,
        hprogress.error_eq_none_iff.mp h, List.append_nil] at hsource
      obtain ⟨c, hc, rfl⟩ := List.mem_map.mp hsource
      exact fileSystem_minifyFile_of_copied hdry hcopied hc

/-- After a build that went well, the sources are the same, and another build
goes well, reports the same and leaves everything as it is. -/
theorem build_build_eq
    (b : Builder) (fs : FileSystem)
    (hlinks : fs.isLinkFree) (h : (b.build fs).error = none) :
    b.discover (b.build fs).fileSystem = b.discover fs ∧
      (b.build (b.build fs).fileSystem).error = none ∧
      (b.build (b.build fs).fileSystem).summary = (b.build fs).summary ∧
      (b.build (b.build fs).fileSystem).output = (b.build fs).output ∧
      (b.build (b.build fs).fileSystem).fileSystem =
        (b.build fs).fileSystem := by
  have hsame := sameSources_build hlinks b
  have hdiscover : b.discover (b.build fs).fileSystem = b.discover fs :=
    (discover_eq hsame b).symm
  obtain ⟨hsummary, houtput, herror⟩ :=
    minifyAll_congr (b := b) rfl (found_of_discover b fs)
      (fun _ _ => ⟨rfl, rfl⟩) hsame (.refl hlinks) Summary.empty
  refine ⟨hdiscover, ?_, ?_, ?_, fileSystem_build_build hlinks h⟩
  · rw [build, hdiscover]
    exact herror.trans h
  · rw [build, hdiscover]
    exact hsummary
  · rw [output_build, hdiscover, houtput, ← output_build]

/-- The first build of `plainSite` writes, the second one changes nothing. -/
theorem build_build_eq_plainSite :
    plainSite.isLinkFree ∧ ((plainBuilder "/s").build plainSite).error = none ∧
      ((plainBuilder "/s").build plainSite).fileSystem ≠ plainSite ∧
      ((plainBuilder "/s").build
          ((plainBuilder "/s").build plainSite).fileSystem).fileSystem =
        ((plainBuilder "/s").build plainSite).fileSystem := by
  have hlinks : plainSite.isLinkFree := by decide
  have herror : ((plainBuilder "/s").build plainSite).error = none := by
    decide +kernel
  obtain ⟨-, -, -, -, hfixed⟩ :=
    build_build_eq (plainBuilder "/s") plainSite hlinks herror
  exact ⟨hlinks, herror, by decide +kernel, hfixed⟩

end Builder

end AssetMinifier
