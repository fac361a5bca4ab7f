import AssetMinifier.Proofs.Build.Source
import AssetMinifier.Proofs.FileSystem.Descend

/-!
# Sites that move

The sources of a site do not depend on where the site is: they are the same
relative paths, put behind its root, as long as a path is not too long to be
followed.  Exclude patterns are matched against the relative paths alone.
-/

namespace AssetMinifier

/-- A relative path that does not lead out of where it starts. -/
def Path.StaysInside (dir : Text) : Prop :=
  isAbsolute dir = false ∧ (cleanSegments dir).head? ≠ some parent

namespace Path.StaysInside

variable {dir : Text}

theorem isNamed
    (h : StaysInside dir) :
    FileSystem.IsNamed (cleanSegments dir) :=
  isName_of_mem_cleanSegments (parent_notMem_of_head? h.2)

theorem join_name
    (h : StaysInside dir) {name : Text} (hname : IsName name) :
    join dir name = ofSegments false (cleanSegments dir ++ [name]) := by
  rw [Path.join_name dir hname, h.1]

theorem join_join_name
    (h : StaysInside dir) {name : Text} (hname : IsName name)
    {root : Text} (hroot : isAbsolute root = true) :
    join root (join dir name) =
      ofSegments true (cleanSegments root ++ (cleanSegments dir ++ [name])) := by
  have hnames := FileSystem.isNamed_concat h.isNamed hname
  have hsegments := cleanSegments_ofSegments false hnames
  have hinside :
      parent ∉ cleanSegments (ofSegments false (cleanSegments dir ++ [name])) := by
    rw [hsegments]
    exact fun hparent => (hnames parent hparent).1.2.2 rfl
  rw [h.join_name hname, join_eq (ne_nil_of_isAbsolute hroot)
    (isAbsolute_ofSegments false hnames) hinside, hroot, hsegments]

end Path.StaysInside

namespace Builder

open FileSystem

variable {b b' : Builder} {fs fs' : FileSystem} {dir name : Text}

/-! ## Paths in a site -/

theorem resolveDir_eq
    (hsite : fs.IsSite b.config.root) (hdir : Path.StaysInside dir) :
    b.config.resolveDir dir =
      Path.ofSegments true
        (Path.cleanSegments b.config.root ++ Path.cleanSegments dir) := by
  rw [Config.resolveDir, if_neg (by simp [hdir.1]),
    Path.join_eq (Path.ne_nil_of_isAbsolute hsite.isAbsolute) hdir.1
      (Path.parent_notMem_of_head? hdir.2), hsite.isAbsolute]

theorem join_resolveDir
    (hsite : fs.IsSite b.config.root) (hdir : Path.StaysInside dir)
    (hname : Path.IsName name) :
    Path.join (b.config.resolveDir dir) name =
      Path.ofSegments true (Path.cleanSegments b.config.root ++
        (Path.cleanSegments dir ++ [name])) := by
  have hnames := isNamed_append_iff.mpr ⟨hsite.isNamed, hdir.isNamed⟩
  rw [resolveDir_eq hsite hdir, Path.join_name _ hname,
    Path.isAbsolute_ofSegments true hnames,
    Path.cleanSegments_ofSegments true hnames, List.append_assoc]

/-- Exclude patterns see a source by its directory and its name, without the
root. -/
theorem relativePath_join
    (hsite : fs.IsSite b.config.root) (hdir : Path.StaysInside dir)
    (hname : Path.IsName name) :
    b.relativePath (Path.join (b.config.resolveDir dir) name) =
      Path.join dir name := by
  rw [relativePath, join_resolveDir hsite hdir hname,
    Path.relative?_ofSegments hsite.isAbsolute
      (isNamed_concat hdir.isNamed hname),
    hdir.join_name hname, Option.getD_some]

/-! ## Sources as seen from the root -/

/-- Whether a name in a directory of a site belongs to a source, by what stands
below the root. -/
def isSourceBelow (b : Builder) (fs : FileSystem) (site : Location) (dir : Text)
    (kind : Kind) (name : Text) : Bool :=
  isCandidate kind name &&
    (fs.descend? site (Path.cleanSegments dir ++ [name])).any (!·.isDirectory) &&
    !Exclude.isExcluded (Path.join dir name) b.config.exclude

/-- The sources of a kind in a directory of a site as relative paths, whatever
the length of the whole paths. -/
def sourcesBelow (b : Builder) (fs : FileSystem) (site : Location) (dir : Text)
    (kind : Kind) : List Text :=
  ((fs.names (site ++ Path.cleanSegments dir)).filter
    (b.isSourceBelow fs site dir kind)).map (Path.join dir)

theorem sourcesBelow_eq
    {site site' : Location} (hsame : SameBelow fs fs' site site')
    (hexclude : b'.config.exclude = b.config.exclude) (dir : Text) (kind : Kind) :
    b'.sourcesBelow fs' site' dir kind = b.sourcesBelow fs site dir kind := by
  have hkept : b'.isSourceBelow fs' site' dir kind =
      b.isSourceBelow fs site dir kind := by
    funext name
    rw [isSourceBelow, isSourceBelow, hsame.descend?_eq, hexclude]
  rw [sourcesBelow, sourcesBelow, hkept, (hsame.append _).names_eq]

theorem isAbsolute_of_mem_sourcesBelow
    (hdir : Path.StaysInside dir)
    {site : Location} {kind : Kind} {path : Text}
    (h : path ∈ b.sourcesBelow fs site dir kind) :
    Path.isAbsolute path = false := by
  obtain ⟨name, hname, rfl⟩ := List.mem_map.mp h
  have hisName := isName_of_mem_names (List.mem_filter.mp hname).1
  rw [hdir.join_name hisName]
  exact Path.isAbsolute_ofSegments false (isNamed_concat hdir.isNamed hisName)

/-- A name in a directory belongs to the build by what stands below the root,
and by the length of the path from the root. -/
theorem isIncluded_join_and_isCandidate
    (hsite : fs.IsSite b.config.root) (hdir : Path.StaysInside dir)
    (hname : Path.IsName name) (kind : Kind) :
    (b.isIncluded fs (Path.join (b.config.resolveDir dir) name) &&
        isCandidate kind name) =
      (decide ((Path.join b.config.root (Path.join dir name)).length ≤
          maxPathLength) &&
        b.isSourceBelow fs (Path.cleanSegments b.config.root) dir kind name) := by
  have hfile : (fs.pathExists (Path.join (b.config.resolveDir dir) name) &&
        !fs.isDirectory (Path.join (b.config.resolveDir dir) name)) =
      (decide ((Path.join b.config.root (Path.join dir name)).length ≤
          maxPathLength) &&
        (fs.descend? (Path.cleanSegments b.config.root)
          (Path.cleanSegments dir ++ [name])).any (!·.isDirectory)) := by
    rw [Bool.eq_iff_iff, pathExists_and_not_isDirectory_iff,
      join_resolveDir hsite hdir hname,
      hdir.join_join_name hname hsite.isAbsolute]
    simp only [hsite.find_iff (isNamed_concat hdir.isNamed hname)]
    cases fs.descend? (Path.cleanSegments b.config.root)
        (Path.cleanSegments dir ++ [name]) with
    | none => simp
    | some n => simp
  rw [isIncluded, isSourceBelow, hfile, relativePath_join hsite hdir hname]
  ac_rfl

/-- A source whose path can be followed stands in a directory whose path can be
followed. -/
theorem find_resolveDir_of_isSourceBelow
    (hsite : fs.IsSite b.config.root) (hdir : Path.StaysInside dir)
    (hname : Path.IsName name) {kind : Kind}
    (hlength : (Path.join b.config.root (Path.join dir name)).length ≤ maxPathLength)
    (h : b.isSourceBelow fs (Path.cleanSegments b.config.root) dir kind name = true) :
    fs.find (b.config.resolveDir dir) =
      .ok (Path.cleanSegments b.config.root ++ Path.cleanSegments dir,
        .directory) := by
  simp only [isSourceBelow, Bool.and_eq_true] at h
  obtain ⟨n, hn⟩ := Option.isSome_iff_exists.mp (Option.isSome_of_any h.1.2)
  rw [resolveDir_eq hsite hdir, hsite.find_iff hdir.isNamed]
  refine ⟨?_, rfl, descend?_of_concat hn⟩
  have hlt := Path.length_ofSegments_lt
    (Path.cleanSegments b.config.root ++ Path.cleanSegments dir) hname.1.1
  rw [hdir.join_join_name hname hsite.isAbsolute, ← List.append_assoc] at hlength
  omega

/-- The sources in a directory of a site are found from the root, if their paths
are not too long. -/
theorem discoverIn_resolveDir
    (hsite : fs.IsSite b.config.root) (hdir : Path.StaysInside dir) (kind : Kind) :
    b.discoverIn fs (b.config.resolveDir dir) kind =
      ((b.sourcesBelow fs (Path.cleanSegments b.config.root) dir kind).map
        (Path.join b.config.root)).filter (·.length ≤ maxPathLength) := by
  have hisName : ∀ name ∈ fs.names
      (Path.cleanSegments b.config.root ++ Path.cleanSegments dir),
      Path.IsName name :=
    fun name hname => isName_of_mem_names hname
  rw [discoverIn, sourcesBelow, List.filter_map, List.map_map, List.filter_map,
    List.filter_filter, List.filter_filter]
  simp only [Function.comp_apply]
  by_cases hfind : fs.find (b.config.resolveDir dir) =
      .ok (Path.cleanSegments b.config.root ++ Path.cleanSegments dir, .directory)
  · rw [list_of_directory hfind, List.filter_congr fun name hname =>
      isIncluded_join_and_isCandidate hsite hdir (hisName name hname) kind]
    refine List.map_congr_left fun name hname => ?_
    have hname := hisName name (List.mem_filter.mp hname).1
    rw [join_resolveDir hsite hdir hname, Function.comp_apply,
      hdir.join_join_name hname hsite.isAbsolute]
  · -- A directory that is not found has no source whose path could be followed.
    have hlist : fs.list (b.config.resolveDir dir) = [] := by
      refine list_of_not_directory fun l hl => hfind ?_
      rw [resolveDir_eq hsite hdir] at hl ⊢
      obtain ⟨-, rfl, -⟩ := (hsite.find_iff hdir.isNamed).mp hl
      exact hl
    rw [hlist, List.filter_nil, List.map_nil, eq_comm, List.map_eq_nil_iff,
      List.filter_eq_nil_iff]
    intro name hname hkept
    rw [Bool.and_eq_true, decide_eq_true_eq] at hkept
    exact hfind (find_resolveDir_of_isSourceBelow hsite hdir (hisName name hname)
      hkept.1 hkept.2)

/-! ## Moving a site -/

/-- Two sites with the same things below their roots have the same sources: the
paths of one list, put behind the root of each, without those that are too long
to be followed.  Exclude patterns see every entry by its directory and its name
only. -/
theorem discover_relocates
    (hconfig : b'.config = { b.config with root := b'.config.root })
    (hsite : fs.IsSite b.config.root) (hsite' : fs'.IsSite b'.config.root)
    (hsame : SameBelow fs fs' (Path.cleanSegments b.config.root)
      (Path.cleanSegments b'.config.root))
    (hcss : Path.StaysInside b.config.cssDir)
    (hjs : Path.StaysInside b.config.jsDir) :
    (∃ paths : List Text, (∀ path ∈ paths, Path.isAbsolute path = false) ∧
      b.discover fs = (paths.map (Path.join b.config.root)).filter
        (·.length ≤ maxPathLength) ∧
      b'.discover fs' = (paths.map (Path.join b'.config.root)).filter
        (·.length ≤ maxPathLength)) ∧
    ∀ dir ∈ [b.config.cssDir, b.config.jsDir],
      (∀ name ∈ fs.list (b.config.resolveDir dir),
        b.relativePath (Path.join (b.config.resolveDir dir) name) =
          Path.join dir name) ∧
      ∀ name ∈ fs'.list (b'.config.resolveDir dir),
        b'.relativePath (Path.join (b'.config.resolveDir dir) name) =
          Path.join dir name := by
  have hcssDir : b'.config.cssDir = b.config.cssDir := by rw [hconfig]
  have hjsDir : b'.config.jsDir = b.config.jsDir := by rw [hconfig]
  have hexclude : b'.config.exclude = b.config.exclude := by rw [hconfig]
  refine ⟨⟨b.sourcesBelow fs (Path.cleanSegments b.config.root) b.config.cssDir .css ++
    b.sourcesBelow fs (Path.cleanSegments b.config.root) b.config.jsDir .js,
    ?_, ?_, ?_⟩, ?_⟩
  · intro path hpath
    rcases List.mem_append.mp hpath with hpath | hpath
    · exact isAbsolute_of_mem_sourcesBelow hcss hpath
    · exact isAbsolute_of_mem_sourcesBelow hjs hpath
  · rw [discover, discoverIn_resolveDir hsite hcss, discoverIn_resolveDir hsite hjs,
      List.map_append, List.filter_append]
  · rw [discover, hcssDir, hjsDir, discoverIn_resolveDir hsite' hcss,
      discoverIn_resolveDir hsite' hjs, sourcesBelow_eq hsame hexclude,
      sourcesBelow_eq hsame hexclude, List.map_append, List.filter_append]
  · intro dir hdir
    have hinside : Path.StaysInside dir := by
      rcases List.mem_pair.mp hdir with rfl | rfl
      · exact hcss
      · exact hjs
    exact ⟨fun name hname => relativePath_join hsite hinside
        (isName_of_mem_list hname),
      fun name hname => relativePath_join hsite' hinside
        (isName_of_mem_list hname)⟩

/-- A tree with a stylesheet that patterns exclude and a directory that is named
like a stylesheet. -/
def styledTree : FileSystem where
  entries :=
    [(["css"], .directory), (["css", "a.css"], .file "a { }"),
      (["css", "b.css"], .file "b { }"), (["css", "c.css"], .directory),
      (["x.js"], .file "var x")]
  workingDirectory := []

/-- A builder whose scripts stand at the root. -/
def styledBuilder (root : Text) : Builder :=
  .ofConfig
    { Config.defaults root with
      cssDir := "a/../css", jsDir := [], exclude := ["css/b*"] }
    .rules

theorem discover_relocates_styledTree :
    (treeAt [] styledTree).IsSite "/" ∧
      (treeAt ["w[1]*"] styledTree).IsSite "/w[1]*" ∧
      (styledBuilder "/").discover (treeAt [] styledTree) =
        ["/css/a.css", "/x.js"] ∧
      ∃ paths : List Text, (∀ path ∈ paths, Path.isAbsolute path = false) ∧
        (styledBuilder "/").discover (treeAt [] styledTree) =
          (paths.map (Path.join "/")).filter (·.length ≤ maxPathLength) ∧
        (styledBuilder "/w[1]*").discover (treeAt ["w[1]*"] styledTree) =
          (paths.map (Path.join "/w[1]*")).filter (·.length ≤ maxPathLength) := by
  have hsite : (treeAt [] styledTree).IsSite "/" :=
    ⟨rfl, by decide, by decide +kernel, fun l _ => node?_ne_link (by decide) l⟩
  have hsite' : (treeAt ["w[1]*"] styledTree).IsSite "/w[1]*" :=
    ⟨rfl, by decide, by decide +kernel, fun l _ => node?_ne_link (by decide) l⟩
  have hmoved := @discover_relocates (styledBuilder "/") (styledBuilder "/w[1]*")
    _ _ rfl hsite hsite' (sameBelow_treeAt styledTree _ _) ⟨rfl, by decide⟩
    ⟨rfl, by decide⟩
  exact ⟨hsite, hsite', by decide +kernel, hmoved.1⟩

/-- A location whose path has 4080 bytes. -/
def deepLocation : Location :=
  List.replicate 16 (List.replicate 254 0x61)

/-- The path of that location. -/
def deepRoot : Text :=
  Path.ofSegments true deepLocation

/-- A tree with a stylesheet. -/
def plainTree : FileSystem where
  entries :=
    [(["css"], .directory), (["css", "typography.css"], .file "a { }")]
  workingDirectory := []

/-- A stylesheet is found at a short root and not at a long one, where its path
has 4099 bytes. -/
theorem discover_not_relocates_deepRoot :
    (treeAt ["s"] plainTree).IsSite (plainBuilder "/s").config.root ∧
      (treeAt deepLocation plainTree).IsSite (plainBuilder deepRoot).config.root ∧
      SameBelow (treeAt ["s"] plainTree) (treeAt deepLocation plainTree)
        (Path.cleanSegments (plainBuilder "/s").config.root)
        (Path.cleanSegments (plainBuilder deepRoot).config.root) ∧
      (plainBuilder deepRoot).config =
        { (plainBuilder "/s").config with root := deepRoot } ∧
      Path.StaysInside (plainBuilder "/s").config.cssDir ∧
      Path.StaysInside (plainBuilder "/s").config.jsDir ∧
      ¬∃ paths : List Text, (∀ path ∈ paths, Path.isAbsolute path = false) ∧
        (plainBuilder "/s").discover (treeAt ["s"] plainTree) =
          paths.map (Path.join "/s") ∧
        (plainBuilder deepRoot).discover (treeAt deepLocation plainTree) =
          paths.map (Path.join deepRoot) := by
  have hsegments : Path.cleanSegments (plainBuilder deepRoot).config.root =
      deepLocation :=
    Path.cleanSegments_ofSegments true (by decide +kernel)
  refine ⟨⟨rfl, by decide, by decide +kernel, ?_⟩,
    ⟨rfl, ?_, by decide +kernel, ?_⟩, ?_, rfl,
    ⟨rfl, by decide⟩, ⟨rfl, by decide⟩, ?_⟩
  · exact fun l _ => node?_ne_link (by decide) l
  · exact congrArg (Path.ofSegments true) hsegments
  · exact fun l _ => node?_ne_link (by decide) l
  · rw [hsegments]
    exact sameBelow_treeAt plainTree _ _
  · rintro ⟨paths, -, hfound, hmissed⟩
    have hshort : (plainBuilder "/s").discover (treeAt ["s"] plainTree) =
        ["/s/css/typography.css"] := by decide +kernel
    have hlong : (plainBuilder deepRoot).discover
        (treeAt deepLocation plainTree) = [] := by decide +kernel
    rw [hlong, eq_comm, List.map_eq_nil_iff] at hmissed
    rw [hshort, hmissed] at hfound
    cases hfound

end Builder

end AssetMinifier
