import AssetMinifier.Build.Basic
import AssetMinifier.Proofs.FileSystem.Name
import AssetMinifier.Proofs.Path.Asset

/-!
# Sources in a file system

A build reads files that are named like sources and writes files that are not.
File systems that differ only in files of the second sort have the same
sources, with the same contents, and the copies of these go to the same places.
-/

namespace AssetMinifier

namespace FileSystem

/-- Whether a location is named like a source. -/
def namesSource (l : Location) : Bool :=
  l.getLast?.any Asset.isSource

@[simp]
theorem namesSource_concat
    (dir : Location) (name : Text) :
    namesSource (dir ++ [name]) = Asset.isSource name := by
  simp [namesSource]

/-- Two file systems without links that differ at most in files that are not
named like sources. -/
structure SameSources (fs fs' : FileSystem) : Prop
    extends SameDirectories fs fs' where
  node?_eq : ∀ l, namesSource l → fs.node? l = fs'.node? l

namespace SameSources

theorem refl
    {fs : FileSystem} (h : fs.isLinkFree) :
    SameSources fs fs :=
  ⟨.refl h, fun _ _ => rfl⟩

theorem symm
    {fs fs' : FileSystem} (h : SameSources fs fs') :
    SameSources fs' fs :=
  ⟨h.toSameDirectories.symm, fun l hl => (h.node?_eq l hl).symm⟩

theorem trans
    {fs fs' fs'' : FileSystem}
    (h : SameSources fs fs') (h' : SameSources fs' fs'') :
    SameSources fs fs'' :=
  ⟨h.toSameDirectories.trans h'.toSameDirectories,
    fun l hl => (h.node?_eq l hl).trans (h'.node?_eq l hl)⟩

end SameSources

theorem sameSources_put_file
    {fs : FileSystem} (hlinks : fs.isLinkFree)
    {l : Location} (hl : fs.node? l ≠ some .directory)
    (hname : namesSource l = false) (data : Text) :
    SameSources fs (fs.put l (.file data)) where
  toSameDirectories := sameDirectories_put_file hlinks hl data
  node?_eq := by
    intro k hk
    have hne : k ≠ l := by
      rintro rfl
      rw [hname] at hk
      cases hk
    exact (node?_put_of_ne fs hne _).symm

/-! ## Where a source stands -/

theorem pathExists_iff
    {fs : FileSystem} {path : Text} :
    fs.pathExists path = true ↔ ∃ l n, fs.find path = .ok (l, n) := by
  rw [pathExists]
  cases fs.find path with
  | error fault => simp [Except.isOk, Except.toBool]
  | ok found =>
      obtain ⟨l, n⟩ := found
      simp [Except.isOk, Except.toBool]

theorem pathExists_of_read
    {fs : FileSystem} {path data : Text} (h : fs.read path = .ok data) :
    fs.pathExists path = true := by
  obtain ⟨l, hfind, -⟩ := read_eq_ok_iff.mp h
  exact pathExists_iff.mpr ⟨l, _, hfind⟩

/-- A source stands in a directory, and its copy goes to the same directory if
its path is not too long. -/
theorem resolve_target_of_isSource
    {fs : FileSystem} (hlinks : fs.isLinkFree)
    {source : Text} (hsource : Asset.isSource source)
    {l : Location} (hresolve : fs.resolve .target source = .ok l) :
    ∃ dir, l = dir ++ [Path.leaf source] ∧
      ∀ goal, fs.resolve goal (Asset.target source) =
        if maxPathLength < (Asset.target source).length ∨
            maxNameLength < (Asset.target (Path.leaf source)).length then
          .error .nameTooLong
        else .ok (dir ++ [Asset.target (Path.leaf source)]) := by
  obtain ⟨dir, hl, hother⟩ := resolve_sibling hlinks
    (Asset.isProper_leaf_of_isSource hsource) hresolve
  refine ⟨dir, hl, fun goal => ?_⟩
  obtain ⟨⟨hzero, -, -⟩, -⟩ := (resolve_eq_ok_iff hlinks).mp hresolve
  have hleafZero : 0 ∉ Path.leaf source := by
    intro hmem
    apply hzero
    rw [← Path.lead_append_leaf source]
    exact List.mem_append_right _ hmem
  rw [Asset.target_eq source]
  exact hother goal _ (Asset.isProper_target_leaf hsource)
    (Asset.separator_notMem_target_leaf source)
    (Asset.notMem_target (by decide) hleafZero)

theorem namesSource_of_isSource
    {source : Text} (hsource : Asset.isSource source) (dir : Location) :
    namesSource (dir ++ [Path.leaf source]) := by
  rw [namesSource_concat,
    Asset.isSource_leaf (Asset.isProper_leaf_of_isSource hsource).1]
  exact hsource

/-- The copy of a source goes to a location that is not named like one. -/
theorem namesSource_of_resolve_target
    {fs : FileSystem} (hlinks : fs.isLinkFree)
    {source : Text} (hsource : Asset.isSource source)
    (hfound : fs.pathExists source)
    {goal : Goal} {l : Location}
    (hresolve : fs.resolve goal (Asset.target source) = .ok l) :
    namesSource l = false := by
  obtain ⟨k, n, hfind⟩ := pathExists_iff.mp hfound
  obtain ⟨dir, -, htarget⟩ :=
    resolve_target_of_isSource hlinks hsource (find_eq_ok_iff.mp hfind).1
  rw [htarget goal] at hresolve
  split at hresolve
  · cases hresolve
  · cases hresolve
    have hminified := Asset.isMinified_target_leaf hsource
    simp [Asset.isSource, hminified]

namespace SameSources

variable {fs fs' : FileSystem} {source : Text}

theorem find_eq_ok_iff
    (h : SameSources fs fs') (hsource : Asset.isSource source)
    {l : Location} {n : Node} :
    fs.find source = .ok (l, n) ↔ fs'.find source = .ok (l, n) := by
  rw [FileSystem.find_eq_ok_iff, FileSystem.find_eq_ok_iff,
    ← resolve_eq_ok_congr h.toSameDirectories]
  refine and_congr_right fun hresolve => ?_
  obtain ⟨dir, rfl, -⟩ :=
    resolve_target_of_isSource h.linkFree_left hsource hresolve
  rw [h.node?_eq _ (namesSource_of_isSource hsource dir)]

/-- A source gives the same to its readers. -/
theorem read_eq
    (h : SameSources fs fs') (hsource : Asset.isSource source)
    (hfound : fs.pathExists source) :
    fs.read source = fs'.read source := by
  obtain ⟨l, n, hfind⟩ := pathExists_iff.mp hfound
  rw [FileSystem.read, FileSystem.read, hfind, (h.find_eq_ok_iff hsource).mp hfind]
  simp only [h.isDefective_eq]

/-- The copy of a source goes to the same place, or fails to for the same
reason. -/
theorem resolve_target_eq
    (h : SameSources fs fs') (hsource : Asset.isSource source)
    (hfound : fs.pathExists source) (goal : Goal) :
    fs.resolve goal (Asset.target source) =
      fs'.resolve goal (Asset.target source) := by
  obtain ⟨l, n, hfind⟩ := pathExists_iff.mp hfound
  have hresolve := (FileSystem.find_eq_ok_iff.mp hfind).1
  obtain ⟨dir, hl, htarget⟩ :=
    resolve_target_of_isSource h.linkFree_left hsource hresolve
  obtain ⟨dir', hl', htarget'⟩ :=
    resolve_target_of_isSource h.linkFree_right hsource
      ((resolve_eq_ok_congr h.toSameDirectories).mp hresolve)
  have hdir : dir = dir' := by
    rw [hl] at hl'
    exact List.append_cancel_right hl'
  rw [htarget, htarget', hdir]

/-- The copy of a source is opened at the same place, or fails to be for the
same reason. -/
theorem openToWrite_target_eq
    (h : SameSources fs fs') (hsource : Asset.isSource source)
    (hfound : fs.pathExists source) :
    fs.openToWrite (Asset.target source) =
      fs'.openToWrite (Asset.target source) := by
  rw [openToWrite_eq, openToWrite_eq, h.resolve_target_eq hsource hfound]
  simp only [h.directory_iff, h.isDefective_eq]

/-- The copy of a source is written, cut short or refused alike. -/
theorem error_write_target_eq
    (h : SameSources fs fs') (hsource : Asset.isSource source)
    (hfound : fs.pathExists source) (output : Text) :
    (fs.write (Asset.target source) output).error =
      (fs'.write (Asset.target source) output).error := by
  have hopen := h.openToWrite_target_eq hsource hfound
  cases hfs : fs.openToWrite (Asset.target source) with
  | error e =>
      rw [write_of_refused hfs, write_of_refused (hopen.symm.trans hfs)]
  | ok l =>
      rw [write_of_open hfs, write_of_open (hopen.symm.trans hfs), h.fitting_eq]

end SameSources

end FileSystem

/-- A builder with the default settings and the rule engine. -/
def plainBuilder (root : Text) : Builder :=
  .ofConfig (.defaults root) .rules

namespace Builder

open FileSystem

/-! ## Listing sources -/

theorem pathExists_and_not_isDirectory_iff
    {fs : FileSystem} {path : Text} :
    (fs.pathExists path && !fs.isDirectory path) = true ↔
      ∃ l n, fs.find path = .ok (l, n) ∧ n.isDirectory = false := by
  rw [pathExists, isDirectory]
  cases hfind : fs.find path with
  | error fault => simp [Except.isOk, Except.toBool]
  | ok found =>
      obtain ⟨l, n⟩ := found
      simp [Except.isOk, Except.toBool]

theorem isSource_of_isCandidate
    {kind : Kind} (hkind : kind = .css ∨ kind = .js)
    {name : Text} (h : isCandidate kind name) :
    Asset.isSource name := by
  obtain ⟨hextension, hminified⟩ :
      Path.extension name = kind.extension ∧ Asset.isMinified name = false := by
    simpa [isCandidate] using h
  refine Asset.isSource_iff.mpr ⟨?_, hminified⟩
  rw [Kind.ofPath, hextension]
  rcases hkind with rfl | rfl <;> decide

theorem isSource_join
    (dir : Text) {name : Text} (h : Asset.isSource name) :
    Asset.isSource (Path.join dir name) :=
  Asset.isSource_of_leaf_eq
    (Path.leaf_join dir (Asset.isProper_leaf_of_isSource h)) h

theorem mem_discoverIn_iff
    {b : Builder} {fs : FileSystem} {dir path : Text} {kind : Kind} :
    path ∈ b.discoverIn fs dir kind ↔
      (∃ name ∈ fs.list dir, isCandidate kind name ∧
        Path.join dir name = path) ∧ b.isIncluded fs path := by
  simp [discoverIn, and_assoc]

theorem mem_discover_iff
    {b : Builder} {fs : FileSystem} {path : Text} :
    path ∈ b.discover fs ↔
      path ∈ b.discoverIn fs (b.config.resolveDir b.config.cssDir) .css ∨
        path ∈ b.discoverIn fs (b.config.resolveDir b.config.jsDir) .js := by
  rw [discover, List.mem_append]

theorem isSource_of_mem_discover
    {b : Builder} {fs : FileSystem} {path : Text} (h : path ∈ b.discover fs) :
    Asset.isSource path := by
  have hin : ∀ {dir : Text} {kind : Kind}, kind = .css ∨ kind = .js →
      path ∈ b.discoverIn fs dir kind → Asset.isSource path := by
    intro dir kind hkind hmem
    obtain ⟨⟨name, -, hcandidate, rfl⟩, -⟩ := mem_discoverIn_iff.mp hmem
    exact isSource_join dir (isSource_of_isCandidate hkind hcandidate)
  rcases mem_discover_iff.mp h with hcss | hjs
  · exact hin (Or.inl rfl) hcss
  · exact hin (Or.inr rfl) hjs

theorem pathExists_of_mem_discover
    {b : Builder} {fs : FileSystem} {path : Text} (h : path ∈ b.discover fs) :
    fs.pathExists path := by
  have hincluded : b.isIncluded fs path := by
    rcases mem_discover_iff.mp h with hcss | hjs
    · exact (mem_discoverIn_iff.mp hcss).2
    · exact (mem_discoverIn_iff.mp hjs).2
  rw [isIncluded, Bool.and_eq_true, Bool.and_eq_true] at hincluded
  exact hincluded.1.1

theorem filter_list_eq
    {fs fs' : FileSystem} (h : SameSources fs fs')
    {kind : Kind} (hkind : kind = .css ∨ kind = .js) (dir : Text) :
    (fs.list dir).filter (isCandidate kind) =
      (fs'.list dir).filter (isCandidate kind) := by
  have hnames : ∀ l, (fs.names l).filter (isCandidate kind) =
      (fs'.names l).filter (isCandidate kind) := by
    intro l
    refine filter_names_congr fun name hname => ?_
    have hsource := isSource_of_isCandidate hkind hname
    rw [h.node?_eq _ (by rwa [namesSource_concat])]
  have hdirectory : ∀ l, fs.find dir = .ok (l, .directory) ↔
      fs'.find dir = .ok (l, .directory) := by
    intro l
    rw [FileSystem.find_eq_ok_iff, FileSystem.find_eq_ok_iff,
      resolve_eq_ok_congr h.toSameDirectories, h.directory_iff]
  by_cases hfind : ∃ l, fs.find dir = .ok (l, .directory)
  · obtain ⟨l, hl⟩ := hfind
    rw [list_of_directory hl, list_of_directory ((hdirectory l).mp hl)]
    exact hnames l
  · have hnot : ∀ l, fs.find dir ≠ .ok (l, .directory) :=
      fun l hl => hfind ⟨l, hl⟩
    rw [list_of_not_directory hnot, list_of_not_directory fun l hl =>
      hnot l ((hdirectory l).mpr hl)]

theorem discoverIn_eq
    {fs fs' : FileSystem} (h : SameSources fs fs') (b : Builder)
    {kind : Kind} (hkind : kind = .css ∨ kind = .js) (dir : Text) :
    b.discoverIn fs dir kind = b.discoverIn fs' dir kind := by
  rw [discoverIn, discoverIn, ← filter_list_eq h hkind]
  refine List.filter_congr fun path hpath => ?_
  obtain ⟨name, hname, rfl⟩ := List.mem_map.mp hpath
  have hsource := isSource_join dir
    (isSource_of_isCandidate hkind (List.mem_filter.mp hname).2)
  have hfile : (fs.pathExists (Path.join dir name) &&
        !fs.isDirectory (Path.join dir name)) =
      (fs'.pathExists (Path.join dir name) &&
        !fs'.isDirectory (Path.join dir name)) := by
    rw [Bool.eq_iff_iff, pathExists_and_not_isDirectory_iff,
      pathExists_and_not_isDirectory_iff]
    simp only [h.find_eq_ok_iff hsource]
  rw [isIncluded, isIncluded, hfile]

/-- File systems that differ only in copies have the same sources. -/
theorem discover_eq
    {fs fs' : FileSystem} (h : SameSources fs fs') (b : Builder) :
    b.discover fs = b.discover fs' := by
  rw [discover, discover, discoverIn_eq h b (Or.inl rfl),
    discoverIn_eq h b (Or.inr rfl)]

end Builder

end AssetMinifier
