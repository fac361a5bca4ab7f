import AssetMinifier.Proofs.Build.Outcome

/-!
# Sources that a build finds

Whether a path names a source is said by its last segment in any case of the
letters, and in any directory.  A build finds less: the stylesheets in one
directory and the scripts in another, by extensions in small letters.  So every
file that a build finds is a source, and a source is found if it stands in the
directory of its kind.
-/

namespace AssetMinifier

namespace Builder

variable {b : Builder} {fs : FileSystem} {path : Text}

/-- A path belongs to a directory under a name with the extension of the
kind that is kept there. -/
def InOwnDirectory (b : Builder) (fs : FileSystem) (path : Text) : Prop :=
  ∃ dir kind,
    (dir, kind) ∈ [(b.config.resolveDir b.config.cssDir, Kind.css),
      (b.config.resolveDir b.config.jsDir, Kind.js)] ∧
    ∃ name ∈ fs.list dir,
      Path.join dir name = path ∧ Path.extension name = kind.extension

theorem isProper_leaf_of_extension
    {kind : Kind} (hkind : kind = .css ∨ kind = .js) {name : Text}
    (h : Path.extension name = kind.extension) :
    Path.IsProper (Path.leaf name) := by
  rw [← Path.extension_leaf] at h
  have hne : ∀ segment ∈ [[], Path.here, Path.parent],
      Path.extension segment ≠ kind.extension := by
    rcases hkind with rfl | rfl <;> decide
  refine ⟨?_, ?_, ?_⟩
  · intro hleaf
    exact hne _ (by simp) (hleaf ▸ h)
  · intro hleaf
    exact hne _ (by simp) (hleaf ▸ h)
  · intro hleaf
    exact hne _ (by simp) (hleaf ▸ h)

/-- In a directory, the name of an entry says whether its path is that of a
copy. -/
theorem isMinified_join
    (dir : Text) {name : Text} (h : Path.IsProper (Path.leaf name)) :
    Asset.isMinified (Path.join dir name) = Asset.isMinified name := by
  have hleaf := Path.leaf_join dir h
  rw [← Asset.isMinified_leaf (by rw [hleaf]; exact h.1), hleaf,
    Asset.isMinified_leaf h.1]

theorem isIncluded_of_exclude_eq_nil
    (hexclude : b.config.exclude = []) (hexists : fs.pathExists path = true)
    (hfile : fs.isDirectory path = false) :
    b.isIncluded fs path = true := by
  simp [isIncluded, hexists, hfile, hexclude, Exclude.isExcluded]

/-- Without exclude patterns, a build finds the sources that stand in the
directory of their kind. -/
theorem mem_discover_iff_inOwnDirectory
    (hexclude : b.config.exclude = []) (hexists : fs.pathExists path = true)
    (hfile : fs.isDirectory path = false) :
    path ∈ b.discover fs ↔
      Asset.isSource path = true ∧ b.InOwnDirectory fs path := by
  have hincluded := isIncluded_of_exclude_eq_nil hexclude hexists hfile
  have hcandidate : ∀ kind name, isCandidate kind name = true ↔
      Path.extension name = kind.extension ∧ Asset.isMinified name = false := by
    intro kind name
    simp [isCandidate]
  constructor
  · intro hmem
    refine ⟨isSource_of_mem_discover hmem, ?_⟩
    rcases mem_discover_iff.mp hmem with hcss | hjs
    · obtain ⟨⟨name, hname, hcss, hpath⟩, -⟩ := mem_discoverIn_iff.mp hcss
      exact ⟨_, .css, by simp, name, hname, hpath, ((hcandidate _ _).mp hcss).1⟩
    · obtain ⟨⟨name, hname, hjs, hpath⟩, -⟩ := mem_discoverIn_iff.mp hjs
      exact ⟨_, .js, by simp, name, hname, hpath, ((hcandidate _ _).mp hjs).1⟩
  · rintro ⟨hsource, dir, kind, hdir, name, hname, rfl, hextension⟩
    have hkind : kind = .css ∨ kind = .js := by
      simp only [List.mem_cons, List.not_mem_nil, or_false, Prod.mk.injEq] at hdir
      exact hdir.imp And.right And.right
    have hminified : Asset.isMinified name = false := by
      rw [← isMinified_join dir (isProper_leaf_of_extension hkind hextension)]
      exact (Asset.isSource_iff.mp hsource).2
    have hin : Path.join dir name ∈ b.discoverIn fs dir kind :=
      mem_discoverIn_iff.mpr ⟨⟨name, hname,
        (hcandidate _ _).mpr ⟨hextension, hminified⟩, rfl⟩, hincluded⟩
    simp only [List.mem_cons, List.not_mem_nil, or_false, Prod.mk.injEq] at hdir
    rcases hdir with ⟨rfl, rfl⟩ | ⟨rfl, rfl⟩
    · exact mem_discover_iff.mpr (Or.inl hin)
    · exact mem_discover_iff.mpr (Or.inr hin)

/-- A build finds nothing but sources.  To be a source and to be found are the
same for a path if and only if the path, should it be a source, stands in the
directory of its kind. -/
theorem isSource_iff_mem_discover_iff
    (hexclude : b.config.exclude = []) (hexists : fs.pathExists path = true)
    (hfile : fs.isDirectory path = false) :
    (path ∈ b.discover fs → Asset.isSource path = true) ∧
      ((Asset.isSource path = true ↔ path ∈ b.discover fs) ↔
        (Asset.isSource path = true → b.InOwnDirectory fs path)) := by
  have hmem := mem_discover_iff_inOwnDirectory hexclude hexists hfile
  refine ⟨isSource_of_mem_discover, ?_⟩
  rw [hmem]
  constructor
  · intro h hsource
    exact (h.mp hsource).2
  · intro h
    exact ⟨fun hsource => ⟨hsource, h hsource⟩, And.left⟩

/-- The stylesheet of the plain site. -/
def plainStylesheet : Text :=
  "/s/css/a.css"

theorem isSource_iff_mem_discover_iff_plainSite :
    ((plainBuilder "/s").config.exclude = [] ∧
      plainSite.pathExists plainStylesheet = true ∧
      plainSite.isDirectory plainStylesheet = false) ∧
    (plainStylesheet ∈ (plainBuilder "/s").discover plainSite →
      Asset.isSource plainStylesheet = true) ∧
    ((Asset.isSource plainStylesheet = true ↔
        plainStylesheet ∈ (plainBuilder "/s").discover plainSite) ↔
      (Asset.isSource plainStylesheet = true →
        (plainBuilder "/s").InOwnDirectory plainSite plainStylesheet)) :=
  ⟨⟨rfl, by decide +kernel, by decide +kernel⟩,
    isSource_iff_mem_discover_iff rfl (by decide +kernel) (by decide +kernel)⟩

/-- A site with a stylesheet whose extension is in capitals, and with a script
among the stylesheets. -/
def mixedSite : FileSystem where
  entries :=
    [(["s"], .directory), (["s", "css"], .directory), (["s", "js"], .directory),
      (["s", "css", "a.CSS"], .file "a { }"),
      (["s", "css", "x.js"], .file "var x")]
  workingDirectory := []

/-- Both files of this site are sources, and a build finds neither. -/
theorem discover_mixedSite :
    (plainBuilder "/s").config.exclude = [] ∧
    mixedSite.list "/s/css" = ["a.CSS", "x.js"] ∧
    mixedSite.pathExists "/s/css/a.CSS" = true ∧
    mixedSite.isDirectory "/s/css/a.CSS" = false ∧
    mixedSite.pathExists "/s/css/x.js" = true ∧
    mixedSite.isDirectory "/s/css/x.js" = false ∧
    Asset.isSource "/s/css/a.CSS" = true ∧
    Asset.isSource "/s/css/x.js" = true ∧
    mixedSite.isDirectory "/s/js" = true ∧
    (plainBuilder "/s").discover mixedSite = [] := by
  decide +kernel

end Builder

end AssetMinifier
