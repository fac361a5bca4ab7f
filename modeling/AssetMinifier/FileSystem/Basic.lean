import AssetMinifier.Path.Basic

/-!
# File systems

A file system is a finite table from locations to nodes, together with the
working directory from which relative paths are read.  A location is the list
of names on the way from the root; the root itself is always a directory.  The
table says one thing of each of its locations, and knows locations by names
only.

What can go wrong with a file belongs to the state as well: a file may be closed
to readers or to writers, it may be damaged, and there may be no room for all
that is written to it.

The table leaves out what the program does not look at.  A file has one name, so
there are no hard links; there are no owners, modes and dates, no devices and no
pipes; directories can always be entered, listed and changed; and no other
writer is seen in the middle of a change.
-/

namespace AssetMinifier

/-- The names on the way from the root of the file system. -/
abbrev Location := List Text

/-- What stands at a location. -/
inductive Node where
  | directory
  | file (data : Text)
  /-- A symbolic link to a path. -/
  | link (target : Text)
  deriving DecidableEq, Repr

namespace Node

/-- Whether a node is a directory. -/
def isDirectory : Node → Bool
  | directory => true
  | _ => false

/-- Whether a node is a symbolic link. -/
def isLink : Node → Bool
  | link _ => true
  | _ => false

end Node

/-- What is wrong with a place for a file. -/
inductive Defect where
  /-- The file may not be opened to be read. -/
  | unreadable
  /-- The file may not be opened to be written. -/
  | unwritable
  /-- The file can be opened, but not read. -/
  | damaged
  /-- There is room for the given number of bytes. -/
  | limited (room : Nat)
  deriving DecidableEq, Repr

namespace FileSystem

/-- Everything on the way to a location has a name. -/
def IsNamed (l : Location) : Prop :=
  ∀ name ∈ l, Path.IsName name

instance : DecidablePred IsNamed :=
  fun l => List.decidableBAll _ l

theorem isNamed_nil : IsNamed [] :=
  fun _ hname => absurd hname List.not_mem_nil

end FileSystem

/-- The nodes of a file system, the working directory, and what is wrong with
places for files. -/
@[ext]
structure FileSystem where
  entries : List (Location × Node)
  workingDirectory : Location
  /-- A defect stays at its location, whatever is put there. -/
  defects : List (Location × Defect) := []
  nodup_entries : (entries.map Prod.fst).Nodup := by decide
  isNamed_entries : ∀ e ∈ entries, FileSystem.IsNamed e.1 := by decide
  isNamed_workingDirectory : FileSystem.IsNamed workingDirectory := by
    exact FileSystem.isNamed_nil
  deriving DecidableEq, Repr

namespace FileSystem

/-- The file system with nothing in it. -/
def empty : FileSystem where
  entries := []
  workingDirectory := []

/-- Make another directory the working directory, if it is given by names. -/
def enter (fs : FileSystem) (dir : Location) : FileSystem :=
  if hdir : IsNamed dir then
    { fs with
      workingDirectory := dir
      isNamed_workingDirectory := hdir }
  else fs

/-- The node at a location, without following links. -/
def node? (fs : FileSystem) (l : Location) : Option Node :=
  if l.isEmpty then some .directory else fs.entries.lookup l

/-! ## Changing the table -/

/-- Entries with a node at a location, in place of the one that was there. -/
def putEntry (entries : List (Location × Node)) (l : Location) (n : Node) :
    List (Location × Node) :=
  if entries.any fun e => e.1 = l then
    entries.map fun e => if e.1 = l then (l, n) else e
  else entries ++ [(l, n)]

/-- What a table holds after something was put into it. -/
theorem mem_putEntry_iff
    {entries : List (Location × Node)} {l : Location} {n : Node}
    {e : Location × Node} :
    e ∈ putEntry entries l n ↔ e = (l, n) ∨ e ∈ entries ∧ e.1 ≠ l := by
  rw [putEntry]
  split
  · rename_i hany
    obtain ⟨old, hold, hkey⟩ := List.any_eq_true.mp hany
    have hkey : old.1 = l := by simpa using hkey
    constructor
    · intro hmem
      obtain ⟨d, hd, rfl⟩ := List.mem_map.mp hmem
      by_cases hdl : d.1 = l
      · exact Or.inl (by simp [hdl])
      · exact Or.inr (by simpa [hdl] using hd)
    · rintro (rfl | ⟨hmem, hne⟩)
      · exact List.mem_map.mpr ⟨old, hold, by simp [hkey]⟩
      · exact List.mem_map.mpr ⟨e, hmem, by simp [hne]⟩
  · rename_i hany
    have hnone : ∀ d ∈ entries, d.1 ≠ l := by
      intro d hd hdl
      exact hany (List.any_eq_true.mpr ⟨d, hd, by simpa using hdl⟩)
    constructor
    · intro hmem
      rcases List.mem_append.mp hmem with hmem | hmem
      · exact Or.inr ⟨hmem, hnone e hmem⟩
      · exact Or.inl (List.mem_singleton.mp hmem)
    · rintro (rfl | ⟨hmem, -⟩)
      · exact List.mem_append_right _ (List.mem_singleton_self _)
      · exact List.mem_append_left _ hmem

/-- Putting a node adds its location to the table, unless it is there. -/
theorem map_fst_putEntry
    (entries : List (Location × Node)) (l : Location) (n : Node) :
    (putEntry entries l n).map Prod.fst =
      entries.map Prod.fst ++ if l ∈ entries.map Prod.fst then [] else [l] := by
  have hany : (entries.any fun e => e.1 = l) = true ↔
      l ∈ entries.map Prod.fst := by
    simp
  rw [putEntry]
  split
  · rename_i hold
    rw [if_pos (hany.mp hold), List.append_nil, List.map_map]
    refine List.map_congr_left fun e _ => ?_
    by_cases he : e.1 = l
    · simp [he]
    · simp [he]
  · rename_i hnew
    rw [if_neg fun hmem => hnew (hany.mpr hmem), List.map_append]
    rfl

theorem nodup_putEntry
    {entries : List (Location × Node)} (h : (entries.map Prod.fst).Nodup)
    (l : Location) (n : Node) :
    ((putEntry entries l n).map Prod.fst).Nodup := by
  rw [map_fst_putEntry]
  split
  · rwa [List.append_nil]
  · rename_i hnew
    refine List.nodup_append.mpr ⟨h, by simp, ?_⟩
    rintro k hk _ hl rfl
    rw [List.mem_singleton.mp hl] at hk
    exact hnew hk

/-- Put a node at a location, in place of the one that was there.  Nothing is
put where no names lead. -/
def put (fs : FileSystem) (l : Location) (n : Node) : FileSystem :=
  if hl : IsNamed l then
    { fs with
      entries := putEntry fs.entries l n
      nodup_entries := nodup_putEntry fs.nodup_entries l n
      isNamed_entries := by
        intro e he
        rcases mem_putEntry_iff.mp he with rfl | ⟨hmem, -⟩
        · exact hl
        · exact fs.isNamed_entries e hmem }
  else fs

theorem nodup_filter
    {entries : List (Location × Node)} (h : (entries.map Prod.fst).Nodup)
    (p : Location × Node → Bool) :
    ((entries.filter p).map Prod.fst).Nodup :=
  h.sublist ((List.filter_sublist).map Prod.fst)

/-- Remove a location and everything below it. -/
def erase (fs : FileSystem) (l : Location) : FileSystem :=
  { fs with
    entries := fs.entries.filter fun e => !l.isPrefixOf e.1
    nodup_entries := nodup_filter fs.nodup_entries _
    isNamed_entries := fun e he => fs.isNamed_entries e (List.mem_filter.mp he).1 }

/-- Everything at and below a location, as it would be at and below
another one. -/
def movedEntries (entries : List (Location × Node)) (source target : Location) :
    List (Location × Node) :=
  entries.filterMap fun e =>
    if source.isPrefixOf e.1 then some (target ++ e.1.drop source.length, e.2)
    else none

theorem mem_movedEntries_iff
    {entries : List (Location × Node)} {source target : Location}
    {e : Location × Node} :
    e ∈ movedEntries entries source target ↔
      ∃ k, (source ++ k, e.2) ∈ entries ∧ e.1 = target ++ k := by
  rw [movedEntries, List.mem_filterMap]
  constructor
  · rintro ⟨old, hold, hmoved⟩
    split at hmoved
    · rename_i hbelow
      obtain ⟨k, hk⟩ := List.isPrefixOf_iff_prefix.mp hbelow
      cases hmoved
      refine ⟨k, ?_, ?_⟩
      · rw [hk]
        exact hold
      · rw [← hk, List.drop_left]
    · cases hmoved
  · rintro ⟨k, hk, he⟩
    refine ⟨_, hk, ?_⟩
    rw [if_pos (List.isPrefixOf_iff_prefix.mpr (List.prefix_append source k)),
      List.drop_left, ← he]

theorem nodup_movedEntries
    {entries : List (Location × Node)} (h : (entries.map Prod.fst).Nodup)
    (source target : Location) :
    ((movedEntries entries source target).map Prod.fst).Nodup := by
  induction entries with
  | nil => exact List.nodup_nil
  | cons e entries ih =>
      obtain ⟨hnew, hrest⟩ := List.nodup_cons.mp h
      rw [movedEntries, List.filterMap_cons]
      split
      · exact ih hrest
      · rename_i moved hmoved
        refine List.nodup_cons.mpr ⟨?_, ih hrest⟩
        intro hmem
        obtain ⟨other, hother, hkey⟩ := List.mem_map.mp hmem
        obtain ⟨k, hk, hotherKey⟩ := mem_movedEntries_iff.mp hother
        split at hmoved
        · rename_i hbelow
          obtain ⟨k', hk'⟩ := List.isPrefixOf_iff_prefix.mp hbelow
          cases hmoved
          rw [hotherKey, ← hk', List.drop_left] at hkey
          rw [List.append_cancel_left hkey, hk'] at hk
          exact hnew (List.mem_map.mpr ⟨_, hk, rfl⟩)
        · cases hmoved

/-- Move a location, with everything below it, to another one.  Nothing is
moved to where no names lead. -/
def move (fs : FileSystem) (source target : Location) : FileSystem :=
  let rest := (fs.erase target).erase source
  if htarget : IsNamed target then
    { rest with
      entries := rest.entries ++ movedEntries fs.entries source target
      nodup_entries := by
        rw [List.map_append]
        refine List.nodup_append.mpr ⟨rest.nodup_entries,
          nodup_movedEntries fs.nodup_entries source target, ?_⟩
        -- Nothing that stays is at or below the target.
        rintro k hk _ hmoved rfl
        obtain ⟨e, he, rfl⟩ := List.mem_map.mp hk
        obtain ⟨m, hm, hkey⟩ := List.mem_map.mp hmoved
        obtain ⟨j, -, hj⟩ := mem_movedEntries_iff.mp hm
        have hstays := (List.mem_filter.mp (List.mem_filter.mp he).1).2
        rw [← hkey, hj, Bool.not_eq_true', ← Bool.not_eq_true,
          List.isPrefixOf_iff_prefix] at hstays
        exact hstays (List.prefix_append target j)
      isNamed_entries := by
        intro e he
        rcases List.mem_append.mp he with he | he
        · exact rest.isNamed_entries e he
        · obtain ⟨k, hk, hkey⟩ := mem_movedEntries_iff.mp he
          rw [hkey]
          intro name hname
          rcases List.mem_append.mp hname with hname | hname
          · exact htarget name hname
          · exact fs.isNamed_entries _ hk name (List.mem_append_right source hname) }
  else fs

/-! ## Directories -/

/-- Put a name into an increasing list of names. -/
def insertName (name : Text) : List Text → List Text
  | [] => [name]
  | n :: ns =>
    if name < n then name :: n :: ns
    else if name = n then n :: ns
    else n :: insertName name ns

/-- The name of a location directly inside a directory. -/
def nameIn? (dir l : Location) : Option Text :=
  if l.dropLast = dir then l.getLast? else none

/-- The names in a directory, in the order of their bytes. -/
def names (fs : FileSystem) (dir : Location) : List Text :=
  (fs.entries.filterMap fun e => nameIn? dir e.1).foldr insertName []

/-- Whether no node is a symbolic link. -/
def isLinkFree (fs : FileSystem) : Bool :=
  fs.entries.all fun e => !e.2.isLink

/-! ## Defects -/

/-- Whether a place has a defect. -/
def isDefective (fs : FileSystem) (l : Location) (d : Defect) : Bool :=
  fs.defects.contains (l, d)

/-- The number of bytes there is room for at a location, if it is limited. -/
def room? (fs : FileSystem) (l : Location) : Option Nat :=
  fs.defects.findSome? fun
    | (k, .limited room) => if k = l then some room else none
    | _ => none

/-- As much of a text as there is room for at a location. -/
def fitting (fs : FileSystem) (l : Location) (data : Text) : Text :=
  match fs.room? l with
  | some room => data.take room
  | none => data

end FileSystem

end AssetMinifier
