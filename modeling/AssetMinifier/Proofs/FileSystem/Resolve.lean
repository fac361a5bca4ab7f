import AssetMinifier.FileSystem.Access
import AssetMinifier.Proofs.FileSystem.Table
import AssetMinifier.Proofs.Path.Leaf

/-!
# Resolving paths without links

Without links, where a path leads to depends on nothing but which locations are
directories.  A path that leads somewhere leads into a directory, and every
other name in place of its last segment leads to that name there.
-/

namespace AssetMinifier.FileSystem

/-! ## Walks -/

/-- Two file systems without links that have the same directories and the same
defects. -/
structure SameDirectories (fs fs' : FileSystem) : Prop where
  linkFree_left : fs.isLinkFree
  linkFree_right : fs'.isLinkFree
  workingDirectory_eq : fs.workingDirectory = fs'.workingDirectory
  defects_eq : fs.defects = fs'.defects
  directory_iff : ∀ l,
    fs.node? l = some .directory ↔ fs'.node? l = some .directory

namespace SameDirectories

theorem refl
    {fs : FileSystem} (h : fs.isLinkFree) :
    SameDirectories fs fs :=
  ⟨h, h, rfl, rfl, fun _ => Iff.rfl⟩

theorem symm
    {fs fs' : FileSystem} (h : SameDirectories fs fs') :
    SameDirectories fs' fs :=
  ⟨h.linkFree_right, h.linkFree_left, h.workingDirectory_eq.symm,
    h.defects_eq.symm, fun l => (h.directory_iff l).symm⟩

theorem trans
    {fs fs' fs'' : FileSystem}
    (h : SameDirectories fs fs') (h' : SameDirectories fs' fs'') :
    SameDirectories fs fs'' :=
  ⟨h.linkFree_left, h'.linkFree_right,
    h.workingDirectory_eq.trans h'.workingDirectory_eq,
    h.defects_eq.trans h'.defects_eq,
    fun l => (h.directory_iff l).trans (h'.directory_iff l)⟩

end SameDirectories

/-- A file that is written where no directory is leaves all directories. -/
theorem sameDirectories_put_file
    {fs : FileSystem} (hlinks : fs.isLinkFree)
    {l : Location} (hl : fs.node? l ≠ some .directory) (data : Text) :
    SameDirectories fs (fs.put l (.file data)) where
  linkFree_left := hlinks
  linkFree_right := isLinkFree_put_file hlinks l data
  workingDirectory_eq := (workingDirectory_put fs l _).symm
  defects_eq := (defects_put fs l _).symm
  directory_iff := by
    intro k
    by_cases hk : k = l
    · subst hk
      by_cases hnamed : IsNamed k
      · have hne : k ≠ [] := by
          rintro rfl
          exact hl rfl
        simp [node?_put_self fs hne hnamed, hl]
      · rw [put_of_not_isNamed fs hnamed]
    · rw [node?_put_of_ne fs hk]

/-- One more segment that names something, in a walk without links. -/
theorem walk_cons_of_isProper
    {fs : FileSystem} (hlinks : fs.isLinkFree)
    (goal : Goal) (dir : Location)
    {segment : Text} (hsegment : Path.IsProper segment) (rest : List Text) :
    walk fs goal dir (segment :: rest) =
      if goal = .file && !rest.isEmpty && rest.all List.isEmpty then
        .failed .isDirectory
      else if maxNameLength < segment.length then .failed .nameTooLong
      else if fs.node? (dir ++ [segment]) = some .directory then
        walk fs goal (dir ++ [segment]) rest
      else if rest.isEmpty then .arrived (dir ++ [segment])
      else if fs.node? (dir ++ [segment]) = none then .failed .missing
      else .failed .notDirectory := by
  obtain ⟨hne, hhere, hparent⟩ := hsegment
  have hskip : (segment.isEmpty || segment = Path.here) = false := by
    simp [hne, hhere]
  rw [walk, if_neg (by simp [hskip]), if_neg hparent]
  cases hnode : fs.node? (dir ++ [segment]) with
  | none => simp [hnode]
  | some n =>
      cases n with
      | directory => simp [hnode]
      | file data => simp [hnode]
      | link target => exact absurd hnode (node?_ne_link hlinks _ target)

theorem walk_cons_of_skip
    (fs : FileSystem) (goal : Goal) (dir : Location)
    {segment : Text} (h : segment = [] ∨ segment = Path.here)
    (rest : List Text) :
    walk fs goal dir (segment :: rest) = walk fs goal dir rest := by
  rw [walk, if_pos]
  simpa using h

theorem walk_cons_parent
    (fs : FileSystem) (goal : Goal) (dir : Location) (rest : List Text) :
    walk fs goal dir (Path.parent :: rest) = walk fs goal dir.dropLast rest := by
  rw [walk, if_neg (by decide), if_pos rfl]

/-- Where a walk arrives depends on the directories alone. -/
theorem walk_eq_arrived_iff
    {fs fs' : FileSystem} (h : SameDirectories fs fs')
    {goal : Goal} {dir l : Location} {segments : List Text} :
    walk fs goal dir segments = .arrived l ↔
      walk fs' goal dir segments = .arrived l := by
  induction segments generalizing dir with
  | nil => rfl
  | cons segment rest ih =>
      rcases Path.isProper_or segment with hproper | hskip | rfl
      · rw [walk_cons_of_isProper h.linkFree_left goal dir hproper rest,
          walk_cons_of_isProper h.linkFree_right goal dir hproper rest]
        simp only [h.directory_iff]
        split
        · rfl
        split
        · rfl
        split
        · exact ih
        split
        · rfl
        -- Both walks fail here, maybe for different reasons.
        constructor
        · intro harrived
          split at harrived <;> cases harrived
        · intro harrived
          split at harrived <;> cases harrived
      · rw [walk_cons_of_skip fs goal dir hskip,
          walk_cons_of_skip fs' goal dir hskip]
        exact ih
      · rw [walk_cons_parent, walk_cons_parent]
        exact ih

theorem walk_ne_atLink
    {fs : FileSystem} (h : fs.isLinkFree)
    {goal : Goal} {dir at' : Location} {segments rest : List Text}
    {target : Text} :
    walk fs goal dir segments ≠ .atLink at' target rest := by
  induction segments generalizing dir with
  | nil => exact Walk.noConfusion
  | cons segment later ih =>
      rcases Path.isProper_or segment with hproper | hskip | rfl
      · rw [walk_cons_of_isProper h goal dir hproper later]
        repeat' split
        all_goals first | exact ih | exact Walk.noConfusion
      · rw [walk_cons_of_skip fs goal dir hskip]
        exact ih
      · rw [walk_cons_parent]
        exact ih

theorem walk_cons_concat
    {fs : FileSystem} (hlinks : fs.isLinkFree)
    (goal : Goal) (dir : Location)
    {segment : Text} (hsegment : Path.IsProper segment)
    (segments : List Text) {name : Text} (hname : Path.IsProper name) :
    walk fs goal dir (segment :: (segments ++ [name])) =
      if maxNameLength < segment.length then .failed .nameTooLong
      else if fs.node? (dir ++ [segment]) = some .directory then
        walk fs goal (dir ++ [segment]) (segments ++ [name])
      else if fs.node? (dir ++ [segment]) = none then .failed .missing
      else .failed .notDirectory := by
  have hempty : (segments ++ [name]).isEmpty = false := by
    simp
  have hall : (segments ++ [name]).all List.isEmpty = false := by
    simp [hname.1]
  rw [walk_cons_of_isProper hlinks goal dir hsegment, hempty, hall]
  simp

/-- A walk that ends with a name leads into a directory, and every other name
leads to that name there. -/
theorem walk_concat
    {fs : FileSystem} (hlinks : fs.isLinkFree)
    {goal : Goal} {dir l : Location} {segments : List Text}
    {name : Text} (hname : Path.IsProper name)
    (hwalk : walk fs goal dir (segments ++ [name]) = .arrived l) :
    ∃ into, l = into ++ [name] ∧
      ∀ (goal' : Goal) (other : Text), Path.IsProper other →
        walk fs goal' dir (segments ++ [other]) =
          if maxNameLength < other.length then .failed .nameTooLong
          else .arrived (into ++ [other]) := by
  induction segments generalizing dir with
  | nil =>
      refine ⟨dir, ?_, fun goal' other hother => ?_⟩
      · rw [List.nil_append, walk_cons_of_isProper hlinks _ _ hname] at hwalk
        simp only [List.isEmpty_nil, Bool.not_true, Bool.and_false,
          Bool.false_and, Bool.false_eq_true, if_false, if_true, walk]
          at hwalk
        split at hwalk
        · cases hwalk
        · split at hwalk
          · exact (Walk.arrived.inj hwalk).symm
          · exact (Walk.arrived.inj hwalk).symm
      · rw [List.nil_append, walk_cons_of_isProper hlinks _ _ hother]
        simp [walk]
  | cons segment segments ih =>
      rcases Path.isProper_or segment with hproper | hskip | rfl
      · rw [List.cons_append,
          walk_cons_concat hlinks goal dir hproper segments hname] at hwalk
        split at hwalk
        · cases hwalk
        rename_i hlength
        split at hwalk
        · rename_i hdirectory
          obtain ⟨into, hl, hother⟩ := ih hwalk
          refine ⟨into, hl, fun goal' other h => ?_⟩
          rw [List.cons_append,
            walk_cons_concat hlinks goal' dir hproper segments h,
            if_neg hlength, if_pos hdirectory]
          exact hother goal' other h
        · split at hwalk <;> cases hwalk
      · rw [List.cons_append, walk_cons_of_skip fs goal dir hskip] at hwalk
        obtain ⟨into, hl, hother⟩ := ih hwalk
        refine ⟨into, hl, fun goal' other h => ?_⟩
        rw [List.cons_append, walk_cons_of_skip fs goal' dir hskip]
        exact hother goal' other h
      · rw [List.cons_append, walk_cons_parent] at hwalk
        obtain ⟨into, hl, hother⟩ := ih hwalk
        refine ⟨into, hl, fun goal' other h => ?_⟩
        rw [List.cons_append, walk_cons_parent]
        exact hother goal' other h

/-! ## Paths -/

/-- What a walk that meets no link comes to. -/
def Walk.toExcept : Walk → Except PathFault Location
  | .arrived l => .ok l
  | .failed fault => .error fault
  | .atLink _ _ _ => .error .tooManyLinks

theorem Walk.toExcept_eq_ok_iff
    {w : Walk} {l : Location} :
    w.toExcept = .ok l ↔ w = .arrived l := by
  cases w <;> simp [toExcept]

theorem walkThrough_eq
    {fs : FileSystem} (h : fs.isLinkFree)
    (goal : Goal) (links : Nat) (dir : Location) (segments : List Text) :
    walkThrough fs goal links dir segments =
      (walk fs goal dir segments).toExcept := by
  rw [walkThrough.eq_def]
  cases hwalk : walk fs goal dir segments with
  | arrived l => simp [hwalk, Walk.toExcept]
  | failed fault => simp [hwalk, Walk.toExcept]
  | atLink dir' target rest => exact absurd hwalk (walk_ne_atLink h)

/-- The segments along which a path is followed from the root. -/
def route (fs : FileSystem) (path : Text) : List Text :=
  startOf fs.workingDirectory path ++ Text.splitOn Path.separator path

theorem resolve_eq
    {fs : FileSystem} (h : fs.isLinkFree)
    {goal : Goal} {path : Text} (hzero : 0 ∉ path) (hne : path ≠ []) :
    fs.resolve goal path =
      if maxPathLength < path.length then .error .nameTooLong
      else (walk fs goal [] (fs.route path)).toExcept := by
  rw [resolve, if_neg hzero, if_neg (by simpa using hne),
    walkThrough_eq h, route]

theorem resolve_eq_ok_iff
    {fs : FileSystem} (h : fs.isLinkFree)
    {goal : Goal} {path : Text} {l : Location} :
    fs.resolve goal path = .ok l ↔
      (0 ∉ path ∧ path ≠ [] ∧ path.length ≤ maxPathLength) ∧
        walk fs goal [] (fs.route path) = .arrived l := by
  by_cases hzero : 0 ∈ path
  · simp [resolve, hzero]
  by_cases hne : path = []
  · simp [resolve, hne]
  rw [resolve_eq h hzero hne]
  by_cases hlength : maxPathLength < path.length
  · simp [hlength]
  · simp [hlength, hzero, hne, Walk.toExcept_eq_ok_iff, Nat.not_lt.mp hlength]

theorem resolve_eq_ok_congr
    {fs fs' : FileSystem} (h : SameDirectories fs fs')
    {goal : Goal} {path : Text} {l : Location} :
    fs.resolve goal path = .ok l ↔ fs'.resolve goal path = .ok l := by
  have hroute : fs.route path = fs'.route path := by
    rw [route, route, h.workingDirectory_eq]
  rw [resolve_eq_ok_iff h.linkFree_left, resolve_eq_ok_iff h.linkFree_right,
    walk_eq_arrived_iff h, hroute]

theorem route_lead_append
    (fs : FileSystem) (path : Text)
    {name : Text} (h : Path.separator ∉ name) :
    fs.route (Path.lead path ++ name) =
      (startOf fs.workingDirectory path ++ Path.leadSegments path) ++
        [name] := by
  rw [route, startOf, startOf, Path.isAbsolute_lead_append path h,
    Path.splitOn_lead_append path h, List.append_assoc]

/-- A path that leads somewhere leads into a directory, and every other name
in place of its last segment leads to that name there, if it is not too long. -/
theorem resolve_sibling
    {fs : FileSystem} (hlinks : fs.isLinkFree)
    {goal : Goal} {path : Text} {l : Location}
    (hleaf : Path.IsProper (Path.leaf path))
    (hresolve : fs.resolve goal path = .ok l) :
    ∃ dir, l = dir ++ [Path.leaf path] ∧
      ∀ (goal' : Goal) (name : Text),
        Path.IsProper name → Path.separator ∉ name → 0 ∉ name →
        fs.resolve goal' (Path.lead path ++ name) =
          if maxPathLength < (Path.lead path ++ name).length ∨
              maxNameLength < name.length then
            .error .nameTooLong
          else .ok (dir ++ [name]) := by
  obtain ⟨⟨hzero, -, -⟩, hwalk⟩ := (resolve_eq_ok_iff hlinks).mp hresolve
  have hroute := route_lead_append fs path (Path.separator_notMem_leaf path)
  rw [Path.lead_append_leaf] at hroute
  rw [hroute] at hwalk
  obtain ⟨dir, hl, hother⟩ := walk_concat hlinks hleaf hwalk
  refine ⟨dir, hl, fun goal' name hname hseparator hnameZero => ?_⟩
  have hlead : 0 ∉ Path.lead path := by
    intro hmem
    apply hzero
    rw [← Path.lead_append_leaf path]
    exact List.mem_append_left _ hmem
  have hzero' : 0 ∉ Path.lead path ++ name := by
    simpa using ⟨hlead, hnameZero⟩
  have hne : Path.lead path ++ name ≠ [] := by
    simp [hname.1]
  rw [resolve_eq hlinks hzero' hne, route_lead_append fs path hseparator,
    hother goal' name hname]
  by_cases hpath : maxPathLength < (Path.lead path ++ name).length
  · rw [if_pos hpath, if_pos (Or.inl hpath)]
  · rw [if_neg hpath]
    by_cases hlength : maxNameLength < name.length
    · rw [if_pos hlength, if_pos (Or.inr hlength)]
      rfl
    · rw [if_neg hlength, if_neg (not_or.mpr ⟨hpath, hlength⟩)]
      rfl

/-! ## Reading and writing -/

theorem find_eq
    (fs : FileSystem) (path : Text) :
    fs.find path =
      match fs.resolve .target path with
      | .error fault => .error fault
      | .ok l =>
        match fs.node? l with
        | some n => .ok (l, n)
        | none => .error .missing := by
  rw [find]
  cases fs.resolve .target path with
  | error fault => rfl
  | ok l => rfl

theorem find_eq_ok_iff
    {fs : FileSystem} {path : Text} {l : Location} {n : Node} :
    fs.find path = .ok (l, n) ↔
      fs.resolve .target path = .ok l ∧ fs.node? l = some n := by
  rw [find_eq]
  constructor
  · intro h
    split at h
    · cases h
    rename_i k hresolve
    split at h
    · rename_i m hnode
      cases h
      exact ⟨hresolve, hnode⟩
    · cases h
  · rintro ⟨hresolve, hnode⟩
    simp [hresolve, hnode]

/-- What the file holds that a path leads to, whether or not it can be read. -/
def contents? (fs : FileSystem) (path : Text) : Option Text :=
  match fs.find path with
  | .ok (_, .file data) => some data
  | _ => none

theorem contents?_eq_some_iff
    {fs : FileSystem} {path data : Text} :
    fs.contents? path = some data ↔
      ∃ l, fs.resolve .target path = .ok l ∧
        fs.node? l = some (.file data) := by
  simp only [← find_eq_ok_iff]
  rw [contents?]
  split
  · rename_i l data' hfind
    simp [hfind]
  · rename_i hfind
    constructor
    · intro h
      cases h
    · rintro ⟨l, hl⟩
      exact absurd hl (hfind l data)

theorem read_eq_ok_iff
    {fs : FileSystem} {path data : Text} :
    fs.read path = .ok data ↔
      ∃ l, fs.find path = .ok (l, .file data) ∧
        fs.isDefective l .unreadable = false ∧
        fs.isDefective l .damaged = false := by
  rw [read]
  split
  · rename_i l data' hfind
    rw [hfind]
    cases hunreadable : fs.isDefective l .unreadable with
    | true => simp +contextual [hunreadable]
    | false =>
        cases hdamaged : fs.isDefective l .damaged with
        | true => simp +contextual [hdamaged]
        | false => simp +contextual [hunreadable, hdamaged]
  all_goals
    rename_i hfind
    simp [hfind]

/-- Only what a file holds can be read. -/
theorem contents?_of_read
    {fs : FileSystem} {path data : Text} (h : fs.read path = .ok data) :
    fs.contents? path = some data := by
  obtain ⟨l, hfind, -⟩ := read_eq_ok_iff.mp h
  rw [contents?, hfind]

theorem list_of_directory
    {fs : FileSystem} {path : Text} {l : Location}
    (h : fs.find path = .ok (l, .directory)) :
    fs.list path = fs.names l := by
  rw [list, h]

theorem list_of_not_directory
    {fs : FileSystem} {path : Text}
    (h : ∀ l, fs.find path ≠ .ok (l, .directory)) :
    fs.list path = [] := by
  rw [list]
  split
  · rename_i l hfind
    exact absurd hfind (h l)
  · rfl

theorem openToWrite_eq
    (fs : FileSystem) (path : Text) :
    fs.openToWrite path =
      match fs.resolve .file path with
      | .error fault => .error ⟨"open", path, fault⟩
      | .ok l =>
        if fs.node? l = some .directory then .error ⟨"open", path, .isDirectory⟩
        else if fs.isDefective l .unwritable then .error ⟨"open", path, .denied⟩
        else .ok l := by
  rw [openToWrite]
  cases fs.resolve .file path with
  | error fault => rfl
  | ok l =>
      cases hnode : fs.node? l with
      | none => simp [hnode]
      | some n => cases n <;> simp [hnode]

theorem openToWrite_eq_ok_iff
    {fs : FileSystem} {path : Text} {l : Location} :
    fs.openToWrite path = .ok l ↔
      fs.resolve .file path = .ok l ∧ fs.node? l ≠ some .directory ∧
        fs.isDefective l .unwritable = false := by
  rw [openToWrite_eq]
  constructor
  · intro h
    split at h
    · cases h
    rename_i k hresolve
    split at h
    · cases h
    rename_i hdirectory
    split at h
    · cases h
    · rename_i hwritable
      cases h
      exact ⟨hresolve, hdirectory, by simpa using hwritable⟩
  · rintro ⟨hresolve, hdirectory, hwritable⟩
    simp [hresolve, hdirectory, hwritable]

theorem operation_of_openToWrite
    {fs : FileSystem} {path : Text} {e : FileError}
    (h : fs.openToWrite path = .error e) :
    e.operation = "open" := by
  rw [openToWrite_eq] at h
  split at h
  · cases h
    rfl
  split at h
  · cases h
    rfl
  split at h
  · cases h
    rfl
  · cases h

/-- A text is kept whole, or cut short where the room ends. -/
theorem fitting_cases
    (fs : FileSystem) (l : Location) (data : Text) :
    fs.fitting l data = data ∨
      ∃ room, fs.room? l = some room ∧ room < data.length ∧
        fs.fitting l data = data.take room := by
  rw [fitting]
  split
  · rename_i room hroom
    rcases Nat.lt_or_ge room data.length with hlt | hge
    · exact Or.inr ⟨room, hroom, hlt, rfl⟩
    · exact Or.inl (List.take_of_length_le hge)
  · exact Or.inl rfl

theorem write_of_refused
    {fs : FileSystem} {path : Text} {e : FileError}
    (h : fs.openToWrite path = .error e) (data : Text) :
    fs.write path data = ⟨fs, some e⟩ := by
  rw [write, h]

/-- Once a file is open, as much is written as there is room for. -/
theorem write_of_open
    {fs : FileSystem} {path : Text} {l : Location}
    (h : fs.openToWrite path = .ok l) (data : Text) :
    fs.write path data =
      ⟨fs.put l (.file (fs.fitting l data)),
        if fs.fitting l data = data then none
        else some ⟨"write", path, .noSpace⟩⟩ := by
  rw [write, h]

namespace SameDirectories

variable {fs fs' : FileSystem}

theorem isDefective_eq
    (h : SameDirectories fs fs') (l : Location) (d : Defect) :
    fs.isDefective l d = fs'.isDefective l d := by
  rw [isDefective, isDefective, h.defects_eq]

theorem fitting_eq
    (h : SameDirectories fs fs') (l : Location) (data : Text) :
    fs.fitting l data = fs'.fitting l data := by
  rw [fitting, fitting, room?, room?, h.defects_eq]

end SameDirectories

end AssetMinifier.FileSystem
