import AssetMinifier.Proofs.Build.Copy

/-!
# The list of sources

The sources of a site stand in two directories, which may be the same or lie
one in the other, and may be reached through links.  The list of sources names
each file once, in the order of the names, and what is written for a source
neither is a source nor is written for another one.
-/

namespace AssetMinifier

namespace FileSystem

theorem pairwise_list
    (fs : FileSystem) (path : Text) :
    (fs.list path).Pairwise (· < ·) := by
  rw [list]
  split
  · exact pairwise_names fs _
  · exact List.Pairwise.nil

end FileSystem

theorem Kind.ofPath_cases
    (path : Text) :
    ofPath path = .css ∨ ofPath path = .js ∨ ofPath path = .unknown := by
  rw [ofPath]
  split
  · exact Or.inl rfl
  · split
    · exact Or.inr (Or.inl rfl)
    · exact Or.inr (Or.inr rfl)

namespace Builder

open FileSystem

/-! ## One directory -/

/-- The paths `files` are the sources of a kind in a directory, each of them
once, in the byte order of their names. -/
structure ListsSources (b : Builder) (fs : FileSystem) (dir : Text) (kind : Kind)
    (files : List Text) : Prop where
  mem_iff : ∀ path, path ∈ files ↔ ∃ name ∈ fs.list dir,
    path = Path.join dir name ∧
      Path.extension name = kind.extension ∧ Asset.isMinified name = false ∧
      fs.pathExists path = true ∧ fs.isDirectory path = false ∧
      Exclude.isExcluded (b.relativePath path) b.config.exclude = false
  pairwise : files.Pairwise fun p q => Path.base p < Path.base q
  ofPath_eq : ∀ path ∈ files, Kind.ofPath path = kind
  isSource : ∀ path ∈ files, Asset.isSource path

theorem ListsSources.nodup
    {b : Builder} {fs : FileSystem} {dir : Text} {kind : Kind} {files : List Text}
    (h : ListsSources b fs dir kind files) :
    files.Nodup := by
  refine h.pairwise.imp ?_
  rintro p _ hlt rfl
  exact List.lt_irrefl _ hlt

/-- A file in a directory keeps its name, since the name is one segment. -/
theorem base_join
    {fs : FileSystem} {dir name : Text}
    (hname : name ∈ fs.list dir) :
    Path.base (Path.join dir name) = name := by
  obtain ⟨hproper, hseparator⟩ := isName_of_mem_list hname
  have hleaf : Path.leaf name = name := Path.leaf_of_notMem hseparator
  have hjoin : Path.leaf (Path.join dir name) = name := by
    rw [Path.leaf_join dir (by rwa [hleaf]), hleaf]
  rw [Path.base_eq_leaf (by rw [hjoin]; exact hproper.1), hjoin]

theorem ofPath_join
    {kind : Kind} (hkind : kind = .css ∨ kind = .js) (dir : Text)
    {name : Text} (h : isCandidate kind name) :
    Kind.ofPath (Path.join dir name) = kind := by
  have hsource := isSource_of_isCandidate hkind h
  have hextension : Path.extension name = kind.extension := by
    simp only [isCandidate, Bool.and_eq_true, decide_eq_true_eq] at h
    exact h.1
  rw [← Asset.ofPath_leaf, Path.leaf_join dir (Asset.isProper_leaf_of_isSource hsource),
    Asset.ofPath_leaf, Kind.ofPath, hextension]
  rcases hkind with rfl | rfl <;> decide

theorem listsSources_discoverIn
    (b : Builder) (fs : FileSystem) (dir : Text)
    {kind : Kind} (hkind : kind = .css ∨ kind = .js) :
    ListsSources b fs dir kind (b.discoverIn fs dir kind) where
  mem_iff := by
    intro path
    rw [mem_discoverIn_iff]
    constructor
    · rintro ⟨⟨name, hname, hcandidate, rfl⟩, hincluded⟩
      simp only [isCandidate, isIncluded, Bool.and_eq_true, Bool.not_eq_true',
        decide_eq_true_eq] at hcandidate hincluded
      exact ⟨name, hname, rfl, hcandidate.1, hcandidate.2, hincluded.1.1,
        hincluded.1.2, hincluded.2⟩
    · rintro ⟨name, hname, rfl, hextension, hminified, hexists, hfile, hexclude⟩
      refine ⟨⟨name, hname, ?_, rfl⟩, ?_⟩
      · simp [isCandidate, hextension, hminified]
      · simp [isIncluded, hexists, hfile, hexclude]
  pairwise := by
    refine List.Pairwise.filter _ (List.pairwise_map.mpr ?_)
    refine ((pairwise_list fs dir).filter _).imp_of_mem fun {m n} hm hn hlt => ?_
    rw [base_join (List.mem_filter.mp hm).1,
      base_join (List.mem_filter.mp hn).1]
    exact hlt
  ofPath_eq := by
    intro path hpath
    obtain ⟨⟨name, -, hcandidate, rfl⟩, -⟩ := mem_discoverIn_iff.mp hpath
    exact ofPath_join hkind dir hcandidate
  isSource := by
    intro path hpath
    obtain ⟨⟨name, -, hcandidate, rfl⟩, -⟩ := mem_discoverIn_iff.mp hpath
    exact isSource_join dir (isSource_of_isCandidate hkind hcandidate)

/-! ## The whole list -/

theorem nodup_discover
    (b : Builder) (fs : FileSystem) :
    (b.discover fs).Nodup := by
  have hcss := listsSources_discoverIn b fs
    (b.config.resolveDir b.config.cssDir) (Or.inl rfl : Kind.css = .css ∨ _)
  have hjs := listsSources_discoverIn b fs
    (b.config.resolveDir b.config.jsDir) (Or.inr rfl : _ ∨ Kind.js = .js)
  refine List.nodup_append.mpr ⟨hcss.nodup, hjs.nodup, ?_⟩
  -- Even in a shared directory no file has two kinds.
  rintro p hp _ hq rfl
  have hkinds := (hcss.ofPath_eq p hp).symm.trans (hjs.ofPath_eq p hq)
  cases hkinds

theorem target_inj_of_mem_discover
    {b : Builder} {fs : FileSystem} {p q : Text}
    (hp : p ∈ b.discover fs) (hq : q ∈ b.discover fs)
    (h : Asset.target p = Asset.target q) :
    p = q :=
  Asset.target_inj
    (Asset.extension_ne_nil_of_isSource (isSource_of_mem_discover hp))
    (Asset.extension_ne_nil_of_isSource (isSource_of_mem_discover hq)) h

theorem target_notMem_discover
    {b : Builder} {fs : FileSystem} {p : Text} (hp : p ∈ b.discover fs) :
    Asset.target p ∉ b.discover fs := by
  intro htarget
  have hminified := Asset.isMinified_target
    (Asset.extension_ne_nil_of_isSource (isSource_of_mem_discover hp))
  rw [(Asset.isSource_iff.mp (isSource_of_mem_discover htarget)).2] at hminified
  cases hminified

/-! ## The rule engine on sources -/

theorem minify_rules_of_isSource
    {source : Text} (h : Asset.isSource source) (content : Text) :
    ∃ output, Engine.rules.minify (Kind.ofPath source) content = .ok output := by
  rcases Kind.ofPath_cases source with hkind | hkind | hkind
  · exact ⟨_, by rw [hkind]; rfl⟩
  · exact ⟨_, by rw [hkind]; rfl⟩
  · exact absurd hkind (Asset.isSource_iff.mp h).1

theorem error_minifyFile_ne_rejected
    {b : Builder} (hengine : b.engine = .rules) (fs : FileSystem)
    {source : Text} (h : Asset.isSource source) (path : Text) (cause : EngineError) :
    (b.minifyFile fs source).error ≠ some (.rejected path cause) := by
  rw [minifyFile]
  cases hread : fs.read source with
  | error fault => simp
  | ok content =>
      obtain ⟨output, houtput⟩ := minify_rules_of_isSource h content
      simp only [hengine, houtput]
      split
      · simp
      · simp

theorem error_minifyAll_ne_rejected
    {b : Builder} (hengine : b.engine = .rules) (fs : FileSystem)
    (summary : Summary) {sources : List Text}
    (h : ∀ source ∈ sources, Asset.isSource source)
    (path : Text) (cause : EngineError) :
    (b.minifyAll fs summary sources).error ≠ some (.rejected path cause) := by
  induction sources generalizing fs summary with
  | nil => simp [minifyAll]
  | cons source sources ih =>
      obtain ⟨hsource, hsources⟩ := List.forall_mem_cons.mp h
      have hfirst := error_minifyFile_ne_rejected hengine fs hsource path cause
      rw [minifyAll]
      cases herror : (b.minifyFile fs source).error with
      | some e =>
          rw [herror] at hfirst
          exact hfirst
      | none => exact ih _ _ hsources

/-! ## All sources -/

/-- The sources of a site are the stylesheets of one directory and then the
scripts of another one, each part in the byte order of the names.  No path is
listed twice, every path is that of a source, no two copies go to one path, and
no copy goes to the path of a source.  So the rule engine refuses none of
them. -/
theorem discover_lists_sources
    (b : Builder) (fs : FileSystem) :
    (∃ stylesheets scripts, b.discover fs = stylesheets ++ scripts ∧
      ListsSources b fs (b.config.resolveDir b.config.cssDir) .css stylesheets ∧
      ListsSources b fs (b.config.resolveDir b.config.jsDir) .js scripts) ∧
    (b.discover fs).Nodup ∧
    (∀ path ∈ b.discover fs, Asset.isSource path) ∧
    ((b.discover fs).map Asset.target).Nodup ∧
    (∀ path ∈ b.discover fs, Asset.target path ∉ b.discover fs) ∧
    (b.engine = .rules → ∀ path cause,
      (b.build fs).error ≠ some (.rejected path cause)) := by
  refine ⟨⟨_, _, rfl, listsSources_discoverIn b fs _ (Or.inl rfl),
    listsSources_discoverIn b fs _ (Or.inr rfl)⟩,
    nodup_discover b fs, fun _ => isSource_of_mem_discover, ?_,
    fun _ => target_notMem_discover, ?_⟩
  · exact (nodup_discover b fs).map_on fun _ hp _ hq =>
      target_inj_of_mem_discover hp hq
  · intro hengine
    exact error_minifyAll_ne_rejected hengine fs _ fun _ => isSource_of_mem_discover

/-- A builder that takes stylesheets and scripts from one directory. -/
def sharedBuilder : Builder :=
  .ofConfig { Config.defaults "/s" with cssDir := "./a", jsDir := "b/../a/" } .rules

/-- A site with links: to a stylesheet, to nothing, to a directory and to the
directory of all sources. -/
def linkedSite : FileSystem where
  entries :=
    [(["s"], .directory), (["s", "a"], .link "../t"), (["t"], .directory),
      (["t", "x.js"], .file "var x"), (["t", "c.css"], .link "b.css"),
      (["t", "b.css"], .file "b { }"), (["t", "b.min.css"], .file "b{}"),
      (["t", "d.css"], .link "nowhere"), (["t", "e.js"], .link "."),
      (["t", "F.CSS"], .file "f { }")]
  workingDirectory := []

theorem discover_lists_sources_linkedSite :
    sharedBuilder.discover linkedSite = ["/s/a/b.css", "/s/a/c.css", "/s/a/x.js"] ∧
      ((sharedBuilder.discover linkedSite).map Asset.target).Nodup ∧
      ∀ path cause,
        (sharedBuilder.build linkedSite).error ≠ some (.rejected path cause) := by
  obtain ⟨-, -, -, htargets, -, hrules⟩ :=
    discover_lists_sources sharedBuilder linkedSite
  exact ⟨by decide +kernel, htargets, hrules rfl⟩

end Builder

end AssetMinifier
