import AssetMinifier.Proofs.FileSystem.Resolve
import AssetMinifier.Proofs.Path.Clean

/-!
# Names in a file system

A table knows locations by names only.  What is reached by following a path is
called by names as well: no segment of a path holds a slash, and a walk never
stops at an empty segment, at `.` or at `..`.  So whatever a path leads to, the
table has a place for it.
-/

namespace AssetMinifier.FileSystem

theorem isNamed_append_iff
    {l k : Location} :
    IsNamed (l ++ k) ↔ IsNamed l ∧ IsNamed k :=
  List.forall_mem_append

theorem isNamed_concat
    {l : Location} {name : Text} (hl : IsNamed l) (hname : Path.IsName name) :
    IsNamed (l ++ [name]) :=
  isNamed_append_iff.mpr ⟨hl, by simpa [IsNamed] using hname⟩

/-! ## Walks -/

/-- A walk that ends at names, with segments left that hold no slash. -/
def Walk.IsNamed : Walk → Prop
  | .arrived l => FileSystem.IsNamed l
  | .atLink dir _ rest =>
    FileSystem.IsNamed dir ∧ ∀ segment ∈ rest, Path.separator ∉ segment
  | .failed _ => True

theorem isNamed_walk
    (fs : FileSystem) (goal : Goal) {dir : Location} (hdir : IsNamed dir)
    {segments : List Text} (hsegments : ∀ segment ∈ segments, Path.separator ∉ segment) :
    (walk fs goal dir segments).IsNamed := by
  induction segments generalizing dir with
  | nil => exact hdir
  | cons segment rest ih =>
      obtain ⟨hsegment, hrest⟩ := List.forall_mem_cons.mp hsegments
      rcases Path.isProper_or segment with hproper | hskip | rfl
      · have hnext := isNamed_concat hdir ⟨hproper, hsegment⟩
        obtain ⟨hne, hhere, hparent⟩ := hproper
        rw [walk, if_neg (by simp [hne, hhere]), if_neg hparent]
        split
        · trivial
        split
        · trivial
        simp only
        split
        · exact ih hnext hrest
        · split
          · exact hnext
          · trivial
        · split
          · exact hnext
          · exact ⟨hdir, hrest⟩
        · split
          · exact hnext
          · trivial
      · rw [walk_cons_of_skip fs goal dir hskip]
        exact ih hdir hrest
      · rw [walk_cons_parent]
        exact ih (fun name hname => hdir name (List.dropLast_subset dir hname)) hrest

theorem isNamed_startOf
    {dir : Location} (hdir : IsNamed dir) (path : Text) :
    IsNamed (startOf dir path) := by
  rw [startOf]
  split
  · exact isNamed_nil
  · exact hdir

theorem isNamed_of_walkThrough
    {fs : FileSystem} {goal : Goal} {links : Nat} {dir l : Location}
    {segments : List Text} (hdir : IsNamed dir)
    (hsegments : ∀ segment ∈ segments, Path.separator ∉ segment)
    (h : walkThrough fs goal links dir segments = .ok l) :
    IsNamed l := by
  have hwalk := isNamed_walk fs goal hdir hsegments
  rw [walkThrough.eq_def] at h
  dsimp only at h
  cases hcase : walk fs goal dir segments with
  | arrived k =>
      rw [hcase] at h hwalk
      cases h
      exact hwalk
  | failed fault =>
      rw [hcase] at h
      cases h
  | atLink into target rest =>
      rw [hcase] at h hwalk
      cases hlinks : links with
      | zero =>
          rw [hlinks] at h
          cases h
      | succ fewer =>
          rw [hlinks] at h
          have htarget : ∀ segment ∈ Text.splitOn Path.separator target ++ rest,
              Path.separator ∉ segment := by
            intro segment hsegment
            rcases List.mem_append.mp hsegment with hsegment | hsegment
            · exact Text.notMem_of_mem_splitOn hsegment
            · exact hwalk.2 segment hsegment
          dsimp only at h
          split at h
          · cases h
          · exact isNamed_of_walkThrough (isNamed_startOf hwalk.1 target)
              htarget h
termination_by links
decreasing_by exact hlinks ▸ Nat.lt_succ_self fewer

/-- A path leads to a location that is given by names, so something can be put
there. -/
theorem isNamed_of_resolve
    {fs : FileSystem} {goal : Goal} {path : Text} {l : Location}
    (hresolve : fs.resolve goal path = .ok l) :
    IsNamed l := by
  rw [resolve] at hresolve
  split at hresolve
  · cases hresolve
  split at hresolve
  · cases hresolve
  split at hresolve
  · cases hresolve
  refine isNamed_of_walkThrough isNamed_nil ?_ hresolve
  intro segment hsegment
  rcases List.mem_append.mp hsegment with hsegment | hsegment
  · exact (isNamed_startOf fs.isNamed_workingDirectory path segment hsegment).2
  · exact Text.notMem_of_mem_splitOn hsegment

theorem isName_of_mem_list
    {fs : FileSystem} {path name : Text} (hname : name ∈ fs.list path) :
    Path.IsName name := by
  rw [list] at hname
  split at hname
  · exact isName_of_mem_names hname
  · cases hname

end AssetMinifier.FileSystem
