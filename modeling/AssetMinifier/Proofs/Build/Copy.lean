import AssetMinifier.Proofs.Build.Source

/-!
# Copies made by a build

A build goes through its sources in order.  As long as nothing fails, each of
them gets its copy, and nothing else changes; so what a later source holds,
where its copy goes and how much room there is for it can be said of the file
system before the build.
-/

namespace AssetMinifier

open FileSystem

/-! ## One file -/

/-- The error of a copy that there was no room for. -/
def BuildError.cutShort (target : Text) : BuildError :=
  .unwritable target ⟨"write", target, .noSpace⟩

/-- The result for a source with given contents. -/
def Result.ofTexts (source content output : Text) : Result where
  source := source
  target := Asset.target source
  kind := Kind.ofPath source
  sourceSize := Int64.ofNat content.length
  minifiedSize := Int64.ofNat output.length

namespace Builder

/-- A copy that cannot be opened is not cut short. -/
theorem unwritable_ne_cutShort
    {fs : FileSystem} {path : Text} {cause : FileError}
    (h : fs.openToWrite path = .error cause) (target : Text) :
    BuildError.unwritable path cause ≠ .cutShort target := by
  intro heq
  have hoperation := operation_of_openToWrite h
  rw [(BuildError.unwritable.inj heq).2] at hoperation
  exact absurd hoperation (by decide : ("write" : Text) ≠ "open")

/-- What can come of minifying one file. -/
inductive Minified (b : Builder) (fs : FileSystem) (source : Text) :
    Attempt → Prop
  /-- It stops with an error before anything is written. -/
  | failed (result : Result) {e : BuildError} :
      (∀ target, e ≠ .cutShort target) →
      Minified b fs source ⟨fs, result, some e⟩
  /-- The result is reported, and nothing is to be written. -/
  | reported {content output : Text} :
      fs.read source = .ok content →
      b.engine.minify (Kind.ofPath source) content = .ok output →
      b.config.dryRun = true →
      Minified b fs source ⟨fs, .ofTexts source content output, none⟩
  /-- The copy is opened, and written as far as there is room. -/
  | opened {content output : Text} {l : Location} :
      fs.read source = .ok content →
      b.engine.minify (Kind.ofPath source) content = .ok output →
      b.config.dryRun = false →
      fs.openToWrite (Asset.target source) = .ok l →
      Minified b fs source
        ⟨fs.put l (.file (fs.fitting l output)), .ofTexts source content output,
          if fs.fitting l output = output then none
          else some (.cutShort (Asset.target source))⟩

/-- Once the copy is open, as much of it is written as there is room for. -/
theorem minifyFile_of_open
    {b : Builder} {fs : FileSystem} {source content output : Text} {l : Location}
    (hread : fs.read source = .ok content)
    (hminify : b.engine.minify (Kind.ofPath source) content = .ok output)
    (hwrites : b.config.dryRun = false)
    (hopen : fs.openToWrite (Asset.target source) = .ok l) :
    b.minifyFile fs source =
      ⟨fs.put l (.file (fs.fitting l output)), .ofTexts source content output,
        if fs.fitting l output = output then none
        else some (.cutShort (Asset.target source))⟩ := by
  rw [minifyFile, hread]
  simp only [hminify, hwrites, write_of_open hopen, Bool.false_eq_true, if_false]
  rw [apply_ite (Option.map _)]
  rfl

theorem minified_minifyFile
    (b : Builder) (fs : FileSystem) (source : Text) :
    Minified b fs source (b.minifyFile fs source) := by
  cases hread : fs.read source with
  | error cause =>
      rw [minifyFile, hread]
      exact .failed _ fun target => nofun
  | ok content =>
      cases hminify : b.engine.minify (Kind.ofPath source) content with
      | error cause =>
          rw [minifyFile, hread]
          simpa only [hminify] using .failed _ fun target => nofun
      | ok output =>
          cases hdry : b.config.dryRun with
          | true =>
              rw [minifyFile, hread]
              simpa [hminify, hdry] using .reported hread hminify hdry
          | false =>
              cases hopen : fs.openToWrite (Asset.target source) with
              | error cause =>
                  rw [minifyFile, hread]
                  simpa [hminify, hdry, write_of_refused hopen] using
                    .failed _ (unwritable_ne_cutShort hopen)
              | ok l =>
                  rw [minifyFile_of_open hread hminify hdry hopen]
                  exact .opened hread hminify hdry hopen

theorem sameSources_minifyFile
    {fs : FileSystem} (hlinks : fs.isLinkFree) (b : Builder)
    {source : Text} (hsource : Asset.isSource source) :
    SameSources fs (b.minifyFile fs source).fileSystem := by
  have hcases := minified_minifyFile b fs source
  generalize b.minifyFile fs source = attempt at hcases ⊢
  cases hcases with
  | failed result _ => exact .refl hlinks
  | reported _ _ _ => exact .refl hlinks
  | opened hread _ _ hopen =>
      obtain ⟨hresolve, hdirectory, -⟩ := openToWrite_eq_ok_iff.mp hopen
      exact sameSources_put_file hlinks hdirectory
        (namesSource_of_resolve_target hlinks hsource (pathExists_of_read hread)
          hresolve) _

/-- Minifying a source goes the same way in file systems that differ only in
copies. -/
theorem minifyFile_congr
    {fs fs' : FileSystem} (h : SameSources fs fs') (b : Builder)
    {source : Text} (hsource : Asset.isSource source)
    (hfound : fs.pathExists source) :
    (b.minifyFile fs source).error = (b.minifyFile fs' source).error ∧
      (b.minifyFile fs source).result = (b.minifyFile fs' source).result := by
  rw [minifyFile, minifyFile, ← h.read_eq hsource hfound]
  cases fs.read source with
  | error cause => exact ⟨rfl, rfl⟩
  | ok content =>
      cases hminify : b.engine.minify (Kind.ofPath source) content with
      | error cause => simp [hminify]
      | ok output =>
          have hwrite := h.error_write_target_eq hsource hfound output
          cases hdry : b.config.dryRun <;> simp [hminify, hwrite]

end Builder

/-! ## Copies -/

/-- A source of a file system together with the copy that a builder makes of
it. -/
structure Copy (b : Builder) (fs : FileSystem) where
  source : Text
  content : Text
  output : Text
  /-- Where the copy goes. -/
  location : Location
  isSource : Asset.isSource source
  read_source : fs.read source = .ok content
  minify_content : b.engine.minify (Kind.ofPath source) content = .ok output
  open_target : fs.openToWrite (Asset.target source) = .ok location

namespace Copy

variable {b : Builder} {fs fs' : FileSystem}

/-- What the build reports about a copy. -/
def result (c : Copy b fs) : Result :=
  .ofTexts c.source c.content c.output

/-- As much of the copy as there is room for. -/
def kept (c : Copy b fs) : Text :=
  fs.fitting c.location c.output

/-- The error of the copy, if there is no room for all of it. -/
def error? (c : Copy b fs) : Option BuildError :=
  if c.kept = c.output then none else some (.cutShort (Asset.target c.source))

theorem error?_eq_none_iff
    {c : Copy b fs} :
    c.error? = none ↔ c.kept = c.output := by
  rw [error?]
  split
  · rename_i hkept
    simp [hkept]
  · rename_i hkept
    simp [hkept]

theorem pathExists_source
    (c : Copy b fs) :
    fs.pathExists c.source :=
  pathExists_of_read c.read_source

theorem resolve_target
    (c : Copy b fs) :
    fs.resolve .file (Asset.target c.source) = .ok c.location :=
  (openToWrite_eq_ok_iff.mp c.open_target).1

theorem node?_location_ne
    (c : Copy b fs) :
    fs.node? c.location ≠ some .directory :=
  (openToWrite_eq_ok_iff.mp c.open_target).2.1

theorem location_ne_nil
    (c : Copy b fs) :
    c.location ≠ [] := by
  intro hroot
  apply c.node?_location_ne
  rw [hroot]
  rfl

/-- What is put where a copy goes stands there. -/
theorem node?_put_location
    (c : Copy b fs) (fs' : FileSystem) (n : Node) :
    (fs'.put c.location n).node? c.location = some n :=
  node?_put_self fs' c.location_ne_nil (isNamed_of_resolve c.resolve_target) n

theorem sameSources_put
    (h : SameSources fs fs') (c : Copy b fs) (data : Text) :
    SameSources fs' (fs'.put c.location (.file data)) :=
  sameSources_put_file h.linkFree_right
    (fun hdirectory => c.node?_location_ne ((h.directory_iff _).mpr hdirectory))
    (namesSource_of_resolve_target h.linkFree_left c.isSource c.pathExists_source
      c.resolve_target) data

theorem exists_dir
    (hlinks : fs.isLinkFree) (c : Copy b fs) :
    ∃ dir, fs.resolve .target c.source = .ok (dir ++ [Path.leaf c.source]) ∧
      c.location = dir ++ [Asset.target (Path.leaf c.source)] ∧
      fs.resolve .target (Asset.target c.source) = .ok c.location := by
  obtain ⟨l, n, hfind⟩ := pathExists_iff.mp c.pathExists_source
  have hresolve := (FileSystem.find_eq_ok_iff.mp hfind).1
  obtain ⟨dir, rfl, htarget⟩ :=
    resolve_target_of_isSource hlinks c.isSource hresolve
  refine ⟨dir, hresolve, ?_, ?_⟩
  · have hfile := htarget .file
    rw [c.resolve_target] at hfile
    split at hfile
    · cases hfile
    · exact Except.ok.inj hfile
  · rw [htarget .target, ← htarget .file, c.resolve_target]

/-- The copy that is made of the same source while only copies differ. -/
def transfer (h : SameSources fs fs') (c : Copy b fs) :
    Copy b fs' where
  source := c.source
  content := c.content
  output := c.output
  location := c.location
  isSource := c.isSource
  read_source := by
    rw [← h.read_eq c.isSource c.pathExists_source]
    exact c.read_source
  minify_content := c.minify_content
  open_target := by
    rw [← h.openToWrite_target_eq c.isSource c.pathExists_source]
    exact c.open_target

/-- Two copies that go to the same place are copies of the same file, so they
hold the same. -/
theorem output_eq_of_location_eq
    (hlinks : fs.isLinkFree) {c d : Copy b fs}
    (h : c.location = d.location) :
    c.output = d.output := by
  obtain ⟨dir, hc, hcl, -⟩ := c.exists_dir hlinks
  obtain ⟨dir', hd, hdl, -⟩ := d.exists_dir hlinks
  have hextension : ∀ e : Copy b fs, Path.extension (Path.leaf e.source) ≠ [] := by
    intro e
    rw [Path.extension_leaf]
    exact Asset.extension_ne_nil_of_isSource e.isSource
  rw [hcl, hdl] at h
  obtain ⟨rfl, htarget⟩ := List.append_inj' h rfl
  have hleaf : Path.leaf c.source = Path.leaf d.source :=
    Asset.target_inj (hextension c) (hextension d) (List.singleton_inj.mp htarget)
  have hkind : Kind.ofPath c.source = Kind.ofPath d.source := by
    rw [← Asset.ofPath_leaf, hleaf, Asset.ofPath_leaf]
  obtain ⟨l, hl, hnode⟩ := contents?_eq_some_iff.mp (contents?_of_read c.read_source)
  obtain ⟨l', hl', hnode'⟩ :=
    contents?_eq_some_iff.mp (contents?_of_read d.read_source)
  have hcontent : c.content = d.content := by
    rw [hc] at hl
    rw [hd, ← hleaf] at hl'
    cases hl
    cases hl'
    rw [hnode] at hnode'
    simpa using hnode'
  have houtput := c.minify_content
  rw [hkind, hcontent, d.minify_content] at houtput
  exact (Except.ok.inj houtput).symm

end Copy

/-- The state of a file system `fs'` that was `fs` before the given copies were
made.  -/
structure Copied {b : Builder} {fs : FileSystem}
    (copies : List (Copy b fs)) (fs' : FileSystem) : Prop where
  sameSources : SameSources fs fs'
  kept_eq : ∀ c ∈ copies, c.kept = c.output
  node?_location : ∀ c ∈ copies, fs'.node? c.location = some (.file c.output)
  node?_eq : ∀ l, (∀ c ∈ copies, c.location ≠ l) → fs'.node? l = fs.node? l

namespace Copied

variable {b : Builder} {fs fs' : FileSystem} {copies : List (Copy b fs)}

theorem nil
    (hlinks : fs.isLinkFree) :
    Copied ([] : List (Copy b fs)) fs :=
  ⟨.refl hlinks, by simp, by simp, fun _ _ => rfl⟩

/-- One more copy is made. -/
theorem concat
    (h : Copied copies fs') (c : Copy b fs) (hkept : c.kept = c.output) :
    Copied (copies ++ [c]) (fs'.put c.location (.file c.output)) where
  sameSources := h.sameSources.trans (c.sameSources_put h.sameSources c.output)
  kept_eq := by
    intro d hd
    rcases List.mem_append.mp hd with hd | hd
    · exact h.kept_eq d hd
    · rw [List.mem_singleton.mp hd]
      exact hkept
  node?_location := by
    intro d hd
    -- A path may be listed twice, or two paths may lead to one file.
    by_cases hlocation : d.location = c.location
    · rw [hlocation, Copy.output_eq_of_location_eq
        h.sameSources.linkFree_left hlocation]
      exact c.node?_put_location fs' _
    · rw [node?_put_of_ne fs' hlocation]
      rcases List.mem_append.mp hd with hd | hd
      · exact h.node?_location d hd
      · exact absurd (congrArg Copy.location (List.mem_singleton.mp hd))
          hlocation
  node?_eq := by
    intro l hl
    have hne : l ≠ c.location :=
      fun heq => hl c (by simp) heq.symm
    rw [node?_put_of_ne fs' hne]
    exact h.node?_eq l fun d hd => hl d (List.mem_append_left _ hd)

end Copied

namespace Builder

variable {b : Builder} {fs fs' : FileSystem}

/-- What comes of a source that gets as far as its copy. -/
theorem minifyFile_of_copy
    (h : SameSources fs fs') (hwrites : b.config.dryRun = false)
    (c : Copy b fs) :
    b.minifyFile fs' c.source =
      ⟨fs'.put c.location (.file c.kept), c.result, c.error?⟩ := by
  have hattempt := minifyFile_of_open (c.transfer h).read_source c.minify_content
    hwrites (c.transfer h).open_target
  rw [← h.fitting_eq] at hattempt
  exact hattempt

/-- A source gets as far as its copy, or it fails and changes nothing. -/
theorem minifyFile_cases
    (h : SameSources fs fs') (hwrites : b.config.dryRun = false)
    {source : Text} (hsource : Asset.isSource source) :
    (∃ c : Copy b fs, c.source = source) ∨
      (b.minifyFile fs' source).fileSystem = fs' ∧
        ∃ e, (b.minifyFile fs' source).error = some e ∧
          ∀ target, e ≠ .cutShort target := by
  have hcases := minified_minifyFile b fs' source
  generalize b.minifyFile fs' source = attempt at hcases ⊢
  cases hcases with
  | @failed result e he => exact Or.inr ⟨rfl, e, rfl, he⟩
  | reported _ _ hdry =>
      rw [hwrites] at hdry
      cases hdry
  | @opened content output l hread hminify hdry hopen =>
      exact Or.inl ⟨Copy.transfer h.symm
        ⟨source, content, output, l, hsource, hread, hminify, hopen⟩, rfl⟩

/-- A source that goes well gets its copy. -/
theorem exists_copy_of_error_eq_none
    (h : SameSources fs fs') (hwrites : b.config.dryRun = false)
    {source : Text} (hsource : Asset.isSource source)
    (herror : (b.minifyFile fs' source).error = none) :
    ∃ c : Copy b fs, c.source = source ∧ c.kept = c.output ∧
      b.minifyFile fs' source =
        ⟨fs'.put c.location (.file c.output), c.result, none⟩ := by
  rcases minifyFile_cases h hwrites hsource with ⟨c, rfl⟩ | ⟨-, e, he, -⟩
  · have hattempt := minifyFile_of_copy h hwrites c
    rw [hattempt] at herror
    have hkept := Copy.error?_eq_none_iff.mp herror
    rw [Copy.error?_eq_none_iff.mpr hkept, hkept] at hattempt
    exact ⟨c, rfl, hkept, hattempt⟩
  · rw [he] at herror
    cases herror

/-- How far it goes from a state in which some copies were made: the first
sources get their copies, and the rest starts with the one that fails. -/
structure Progress (fs' : FileSystem) (summary : Summary) (sources : List Text)
    (before copies : List (Copy b fs)) (rest : List Text) : Prop where
  sources_eq : sources = copies.map Copy.source ++ rest
  copied : ∀ j ≤ copies.length,
    Copied (before ++ copies.take j)
      (b.minifyAll fs' summary (sources.take j)).fileSystem
  summary_eq : (b.minifyAll fs' summary sources).summary =
    (copies.map Copy.result).foldl Summary.add summary
  error_eq : (b.minifyAll fs' summary sources).error =
    (rest.head?.bind fun source => (b.minifyFile fs source).error)
  error_eq_none_iff : (b.minifyAll fs' summary sources).error = none ↔ rest = []
  fileSystem_eq : ∀ source, rest.head? = some source →
    (b.minifyAll fs' summary sources).fileSystem =
      (b.minifyFile (b.minifyAll fs' summary
        (sources.take copies.length)).fileSystem source).fileSystem

/-- Sources are minified in order, and each of them gets its copy, up to the
first one that fails. -/
theorem exists_progress
    (hwrites : b.config.dryRun = false)
    {sources : List Text}
    (hsources : ∀ source ∈ sources,
      Asset.isSource source ∧ fs.pathExists source)
    {before : List (Copy b fs)} (hbefore : Copied before fs')
    (summary : Summary) :
    ∃ copies rest, Progress fs' summary sources before copies rest := by
  induction sources generalizing fs' before summary with
  | nil =>
      refine ⟨[], [], rfl, ?_, rfl, rfl, by simp [minifyAll], nofun⟩
      intro j hj
      simpa [minifyAll] using hbefore
  | cons source sources ih =>
      obtain ⟨hsource, hfound⟩ := hsources source (by simp)
      have hcongr := (minifyFile_congr hbefore.sameSources b hsource hfound).1
      cases herror : (b.minifyFile fs' source).error with
      | some e =>
          -- Nothing is copied from here on, and the rest starts with the source
          -- that fails.
          refine ⟨[], source :: sources, rfl, ?_, ?_, ?_, ?_, ?_⟩
          · intro j hj
            obtain rfl : j = 0 := Nat.le_zero.mp hj
            simpa [minifyAll] using hbefore
          · simp [minifyAll, herror]
          · simp [minifyAll, herror, hcongr]
          · simp [minifyAll, herror]
          · intro s hs
            cases hs
            simp [minifyAll, herror]
      | none =>
          obtain ⟨c, rfl, hkept, hattempt⟩ := exists_copy_of_error_eq_none
            hbefore.sameSources hwrites hsource herror
          obtain ⟨copies, rest, h⟩ :=
            ih (fun s hs => hsources s (List.mem_cons_of_mem _ hs))
              (hbefore.concat c hkept) (summary.add c.result)
          refine ⟨c :: copies, rest, ?_, ?_, ?_, ?_, ?_, ?_⟩
          · rw [h.sources_eq]
            rfl
          · intro j hj
            cases j with
            | zero => simpa [minifyAll] using hbefore
            | succ j =>
                have hj' := h.copied j (Nat.le_of_succ_le_succ hj)
                simpa [minifyAll, hattempt] using hj'
          · simpa [minifyAll, hattempt] using h.summary_eq
          · simpa [minifyAll, hattempt] using h.error_eq
          · simpa [minifyAll, hattempt] using h.error_eq_none_iff
          · intro s hs
            simpa [minifyAll, hattempt] using h.fileSystem_eq s hs

namespace Progress

variable {summary : Summary} {sources rest : List Text} {before copies : List (Copy b fs)}

theorem length_eq
    (h : Progress fs' summary sources before copies rest) :
    sources.length = copies.length + rest.length := by
  rw [h.sources_eq, List.length_append, List.length_map]

theorem take_length
    (h : Progress fs' summary sources before copies rest) :
    sources.take copies.length = copies.map Copy.source := by
  rw [h.sources_eq, ← List.length_map (f := Copy.source), List.take_left]

theorem getElem?_length
    (h : Progress fs' summary sources before copies rest) :
    sources[copies.length]? = rest.head? := by
  rw [h.sources_eq, List.getElem?_append_right (by simp)]
  simp [List.head?_eq_getElem?]

theorem mem_of_head?
    (h : Progress fs' summary sources before copies rest)
    {source : Text} (hhead : rest.head? = some source) :
    source ∈ sources :=
  List.mem_of_getElem? (h.getElem?_length.trans hhead)

theorem copied_length
    (h : Progress fs' summary sources before copies rest) :
    Copied (before ++ copies)
      (b.minifyAll fs' summary (sources.take copies.length)).fileSystem := by
  have hcopied := h.copied copies.length (Nat.le_refl _)
  rwa [List.take_length] at hcopied

/-- If nothing fails, all copies are made. -/
theorem copied_of_error_eq_none
    (h : Progress fs' summary sources before copies rest)
    (herror : (b.minifyAll fs' summary sources).error = none) :
    Copied (before ++ copies) (b.minifyAll fs' summary sources).fileSystem := by
  have hcopied := h.copied_length
  have hlength := h.length_eq
  rw [h.error_eq_none_iff.mp herror, List.length_nil, Nat.add_zero] at hlength
  rwa [← hlength, List.take_length] at hcopied

end Progress

end Builder

end AssetMinifier
