import AssetMinifier.Proofs.FileSystem.Name

/-!
# Going down from a directory

A path made of names that meets no link leads down one directory at a time.
What it leads to can be found from any directory on the way, so two directories
with the same things below them are searched alike, wherever they are.  Only
the length of the whole path tells them apart.
-/

namespace AssetMinifier.FileSystem

/-- What names lead to from a location: nothing, if one of them stands in no
directory, is too long or holds a zero byte. -/
def descend? (fs : FileSystem) : Location → List Text → Option Node
  | l, [] => fs.node? l
  | l, name :: rest =>
    if fs.node? l = some .directory ∧ 0 ∉ name ∧ name.length ≤ maxNameLength then
      descend? fs (l ++ [name]) rest
    else none

/-- None of the names from a location on is that of a link. -/
def LinkFreeAlong (fs : FileSystem) (l : Location) (names : List Text) : Prop :=
  ∀ k, k <+: names → ∀ target, fs.node? (l ++ k) ≠ some (.link target)

theorem LinkFreeAlong.tail
    {fs : FileSystem} {l : Location} {name : Text} {rest : List Text}
    (h : fs.LinkFreeAlong l (name :: rest)) :
    fs.LinkFreeAlong (l ++ [name]) rest := by
  intro k hk target
  rw [List.append_assoc, List.singleton_append]
  exact h (name :: k) (List.cons_prefix_cons.mpr ⟨rfl, hk⟩) target

variable {fs fs' : FileSystem}

/-! ## Parts of the way -/

theorem descend?_of_not_directory
    {l : Location} (h : fs.node? l ≠ some .directory) {names : List Text}
    (hne : names ≠ []) :
    fs.descend? l names = none := by
  obtain ⟨name, rest, rfl⟩ := List.exists_cons_of_ne_nil hne
  exact if_neg fun hstep => h hstep.1

theorem zero_notMem_of_descend?
    {l : Location} {names : List Text} {n : Node}
    (h : fs.descend? l names = some n) :
    ∀ name ∈ names, 0 ∉ name := by
  induction names generalizing l with
  | nil => exact fun _ hname => absurd hname List.not_mem_nil
  | cons name rest ih =>
      rw [descend?] at h
      split at h
      · rename_i hstep
        exact List.forall_mem_cons.mpr ⟨hstep.2.1, ih h⟩
      · cases h

/-- From a directory on the way the rest of the way is the same. -/
theorem descend?_append
    {l : Location} {names : List Text}
    (h : fs.descend? l names = some .directory) (rest : List Text) :
    fs.descend? l (names ++ rest) = fs.descend? (l ++ names) rest := by
  induction names generalizing l with
  | nil => simp
  | cons name names ih =>
      rw [descend?] at h
      split at h
      · rename_i hstep
        rw [List.cons_append, descend?, if_pos hstep, ih h, List.append_assoc,
          List.singleton_append]
      · cases h

/-- What is found stands in a directory. -/
theorem descend?_of_concat
    {l : Location} {names : List Text} {name : Text} {n : Node}
    (h : fs.descend? l (names ++ [name]) = some n) :
    fs.descend? l names = some .directory := by
  induction names generalizing l with
  | nil =>
      by_contra hl
      rw [List.nil_append, descend?_of_not_directory hl (by simp)] at h
      cases h
  | cons first names ih =>
      rw [List.cons_append, descend?] at h
      split at h
      · rename_i hstep
        rw [descend?, if_pos hstep, ih h]
      · cases h

/-! ## Paths -/

/-- A walk along names either arrives at the end of them or finds nothing. -/
theorem walk_names
    {l : Location} (hl : fs.node? l = some .directory)
    {names : List Text} (hnames : IsNamed names) (hzero : ∀ name ∈ names, 0 ∉ name)
    (hlinks : fs.LinkFreeAlong l names) :
    (walk fs .target l names = .arrived (l ++ names) ∧
      fs.descend? l names = fs.node? (l ++ names)) ∨
    ∃ fault, walk fs .target l names = .failed fault ∧
      fs.descend? l names = none := by
  induction names generalizing l with
  | nil => exact Or.inl (by simp [walk, descend?])
  | cons name rest ih =>
      obtain ⟨⟨⟨hne, hhere, hparent⟩, -⟩, hrest⟩ := List.forall_mem_cons.mp hnames
      obtain ⟨hname, hzero⟩ := List.forall_mem_cons.mp hzero
      rw [walk, if_neg (by simp [hne, hhere]), if_neg hparent, if_neg (by simp)]
      by_cases hlong : maxNameLength < name.length
      · right
        exact ⟨_, if_pos hlong, if_neg fun hstep => absurd hstep.2.2 (by omega)⟩
      rw [if_neg hlong, descend?, if_pos ⟨hl, hname, Nat.le_of_not_lt hlong⟩]
      dsimp only
      cases hnode : fs.node? (l ++ [name]) with
      | none =>
          cases rest with
          | nil => exact Or.inl (by simp [descend?])
          | cons next rest =>
              right
              exact ⟨_, rfl, descend?_of_not_directory (by simp [hnode]) (by simp)⟩
      | some n =>
          cases n with
          | directory =>
              have hwalk := ih hnode hrest hzero hlinks.tail
              rwa [List.append_assoc, List.singleton_append] at hwalk
          | file data =>
              cases rest with
              | nil => exact Or.inl (by simp [descend?])
              | cons next rest =>
                  right
                  exact ⟨_, rfl, descend?_of_not_directory (by simp [hnode]) (by simp)⟩
          | link target =>
              exact absurd hnode (hlinks [name] (by simp) target)

theorem walk_splitOn_ofSegments
    {names : List Text} (hnames : IsNamed names) (goal : Goal) :
    walk fs goal [] (Text.splitOn Path.separator (Path.ofSegments true names)) =
      walk fs goal [] names := by
  by_cases hne : names = []
  · subst hne
    rfl
  · rw [Path.splitOn_ofSegments true hnames hne]
    exact walk_cons_of_skip fs goal [] (Or.inl rfl) names

/-- A path of names leads to what its names lead to, unless it is too long. -/
theorem find_ofSegments
    {names : List Text} (hnames : IsNamed names) (hlinks : fs.LinkFreeAlong [] names)
    {l : Location} {n : Node} :
    fs.find (Path.ofSegments true names) = .ok (l, n) ↔
      (Path.ofSegments true names).length ≤ maxPathLength ∧
        l = names ∧ fs.descend? [] names = some n := by
  have hzero : 0 ∈ Path.ofSegments true names ↔ ∃ name ∈ names, 0 ∈ name :=
    Path.mem_ofSegments_true_iff (by decide)
  rw [find_eq_ok_iff, resolve]
  by_cases hmem : 0 ∈ Path.ofSegments true names
  · obtain ⟨name, hname, hbyte⟩ := hzero.mp hmem
    simp only [if_pos hmem, reduceCtorEq, false_and, false_iff]
    rintro ⟨-, -, hdescend⟩
    exact zero_notMem_of_descend? hdescend name hname hbyte
  rw [if_neg hmem, if_neg (by simp [Path.ofSegments])]
  by_cases hlong : maxPathLength < (Path.ofSegments true names).length
  · simp [hlong, Nat.not_le_of_lt hlong]
  have hstart : startOf fs.workingDirectory (Path.ofSegments true names) = [] := rfl
  have hbytes : ∀ name ∈ names, 0 ∉ name :=
    fun name hname hbyte => hmem (hzero.mpr ⟨name, hname, hbyte⟩)
  rw [if_neg hlong, hstart, List.nil_append, walkThrough.eq_def]
  dsimp only
  rw [walk_splitOn_ofSegments hnames]
  simp only [Nat.le_of_not_lt hlong, true_and]
  rcases walk_names (node?_nil fs) hnames hbytes hlinks with
    ⟨hwalk, hdescend⟩ | ⟨fault, hwalk, hdescend⟩
  · rw [List.nil_append] at hwalk hdescend
    rw [hwalk, hdescend]
    constructor
    · rintro ⟨hl, hn⟩
      cases hl
      exact ⟨rfl, hn⟩
    · rintro ⟨rfl, hn⟩
      exact ⟨rfl, hn⟩
  · simp [hwalk, hdescend]

/-! ## Sites -/

/-- The path of a directory with no link on the way to it and none below it. -/
structure IsSite (fs : FileSystem) (root : Text) : Prop where
  isAbsolute : Path.isAbsolute root = true
  clean_eq : Path.clean root = root
  isDirectory : fs.isDirectory root = true
  not_link : ∀ l, l <+: Path.cleanSegments root ∨ Path.cleanSegments root <+: l →
    ∀ target, fs.node? l ≠ some (.link target)

namespace IsSite

variable {root : Text}

theorem isNamed
    (h : fs.IsSite root) :
    IsNamed (Path.cleanSegments root) :=
  Path.isName_of_mem_cleanSegments (Path.parent_notMem_of_isAbsolute h.isAbsolute)

theorem linkFreeAlong
    (h : fs.IsSite root) (names : List Text) :
    fs.LinkFreeAlong [] (Path.cleanSegments root ++ names) := by
  intro k hk target
  exact h.not_link k (List.prefix_or_prefix_of_prefix hk (List.prefix_append _ _))
    target

theorem descend?_root
    (h : fs.IsSite root) :
    fs.descend? [] (Path.cleanSegments root) = some .directory := by
  have hroot : Path.ofSegments true (Path.cleanSegments root) = root := by
    have hclean := h.clean_eq
    rwa [Path.clean, h.isAbsolute] at hclean
  have hlinks := h.linkFreeAlong []
  rw [List.append_nil] at hlinks
  have hdirectory := h.isDirectory
  rw [FileSystem.isDirectory] at hdirectory
  split at hdirectory
  · rename_i l n hfind
    rw [← hroot, find_ofSegments h.isNamed hlinks] at hfind
    obtain ⟨-, -, hdescend⟩ := hfind
    rw [hdescend]
    cases n with
    | directory => rfl
    | file data => cases hdirectory
    | link target => cases hdirectory
  · cases hdirectory

/-- Names below a site lead to the same as from the site, unless the whole path
is too long. -/
theorem find_iff
    (h : fs.IsSite root) {names : List Text} (hnames : IsNamed names)
    {l : Location} {n : Node} :
    fs.find (Path.ofSegments true (Path.cleanSegments root ++ names)) = .ok (l, n) ↔
      (Path.ofSegments true (Path.cleanSegments root ++ names)).length ≤
          maxPathLength ∧
        l = Path.cleanSegments root ++ names ∧
        fs.descend? (Path.cleanSegments root) names = some n := by
  rw [find_ofSegments (isNamed_append_iff.mpr ⟨h.isNamed, hnames⟩)
    (h.linkFreeAlong names), descend?_append h.descend?_root, List.nil_append]

end IsSite

/-! ## The same things elsewhere -/

/-- The same things stand below two locations. -/
def SameBelow (fs fs' : FileSystem) (l l' : Location) : Prop :=
  ∀ k, fs.node? (l ++ k) = fs'.node? (l' ++ k)

namespace SameBelow

variable {l l' : Location}

theorem append
    (h : SameBelow fs fs' l l') (names : List Text) :
    SameBelow fs fs' (l ++ names) (l' ++ names) := by
  intro k
  rw [List.append_assoc, List.append_assoc]
  exact h (names ++ k)

theorem descend?_eq
    (h : SameBelow fs fs' l l') (names : List Text) :
    fs.descend? l names = fs'.descend? l' names := by
  have hhere : fs.node? l = fs'.node? l' := by simpa using h []
  induction names generalizing l l' with
  | nil => exact hhere
  | cons name rest ih =>
      rw [descend?, descend?, hhere, ih (h.append [name]) (by simpa using h [name])]

theorem names_eq
    (h : SameBelow fs fs' l l') :
    fs.names l = fs'.names l' := by
  refine List.Pairwise.eq_of_mem_iff (pairwise_names fs l) (pairwise_names fs' l')
    fun name => ?_
  rw [mem_names_iff, mem_names_iff, h [name]]

end SameBelow

/-! ## One tree at two places -/

/-- The directories on the way to a location. -/
def wayTo (l : Location) : List (Location × Node) :=
  (List.range l.length).map fun i => (l.take (i + 1), .directory)

theorem mem_wayTo_iff
    {l k : Location} {n : Node} :
    (k, n) ∈ wayTo l ↔ n = .directory ∧ k ≠ [] ∧ k <+: l := by
  rw [wayTo, List.mem_map]
  constructor
  · rintro ⟨i, hi, hentry⟩
    cases hentry
    refine ⟨rfl, fun hnil => ?_, List.take_prefix _ _⟩
    have hlength := List.mem_range.mp hi
    rw [List.take_eq_nil_iff] at hnil
    rcases hnil with hzero | rfl
    · cases hzero
    · cases hlength
  · rintro ⟨rfl, hne, hbelow⟩
    have hpos : 0 < k.length := List.length_pos_iff.mpr hne
    have hle := hbelow.length_le
    refine ⟨k.length - 1, List.mem_range.mpr (by omega), ?_⟩
    rw [Nat.sub_add_cancel hpos, ← List.prefix_iff_eq_take.mp hbelow]

theorem nodup_wayTo
    (l : Location) :
    ((wayTo l).map Prod.fst).Nodup := by
  rw [wayTo, List.map_map]
  refine List.nodup_range.map_on fun i hi j hj heq => ?_
  have hlength := congrArg List.length heq
  simp only [Function.comp_apply, List.length_take] at hlength
  have hi := List.mem_range.mp hi
  have hj := List.mem_range.mp hj
  omega

/-- A file system with the things of another one at a location, and nothing
else. -/
def treeAt (l : Location) (tree : FileSystem) (hl : IsNamed l := by decide +kernel) :
    FileSystem where
  entries :=
    wayTo l ++ (tree.entries.filter (·.1 ≠ [])).map fun e => (l ++ e.1, e.2)
  workingDirectory := []
  nodup_entries := by
    rw [List.map_append]
    refine List.nodup_append.mpr ⟨nodup_wayTo l, ?_, ?_⟩
    · have hnodup := nodup_filter tree.nodup_entries (·.1 ≠ [])
      rw [List.map_map]
      rw [← List.nodup_map_iff (List.append_right_injective l), List.map_map]
        at hnodup
      exact hnodup
    · rintro k hway _ hbelow rfl
      obtain ⟨⟨_, n⟩, hmem, rfl⟩ := List.mem_map.mp hway
      rw [List.map_map] at hbelow
      obtain ⟨e, he, hkey⟩ := List.mem_map.mp hbelow
      obtain ⟨-, -, hbelow⟩ := mem_wayTo_iff.mp hmem
      have hne : e.1 ≠ [] := by simpa using (List.mem_filter.mp he).2
      have hlength := hbelow.length_le
      have hpos := List.length_pos_iff.mpr hne
      simp only [Function.comp_apply] at hkey
      rw [← hkey, List.length_append] at hlength
      omega
  isNamed_entries := by
    intro e he
    rcases List.mem_append.mp he with he | he
    · obtain ⟨-, -, hbelow⟩ := mem_wayTo_iff.mp (show (e.1, e.2) ∈ wayTo l from he)
      exact fun name hname => hl name (hbelow.subset hname)
    · obtain ⟨old, hold, rfl⟩ := List.mem_map.mp he
      exact isNamed_append_iff.mpr
        ⟨hl, tree.isNamed_entries old (List.mem_filter.mp hold).1⟩

theorem node?_treeAt
    (tree : FileSystem) {l : Location} (hl : IsNamed l) (k : Location) :
    (treeAt l tree hl).node? (l ++ k) = tree.node? k := by
  by_cases hnil : l ++ k = []
  · obtain ⟨rfl, rfl⟩ := List.append_eq_nil_iff.mp hnil
    rfl
  by_cases hk : k = []
  · subst hk
    rw [List.append_nil] at hnil ⊢
    exact node?_of_mem_entries hnil (List.mem_append_left _
      (mem_wayTo_iff.mpr ⟨rfl, hnil, List.prefix_refl l⟩))
  cases hnode : tree.node? k with
  | some n =>
      refine node?_of_mem_entries hnil (List.mem_append_right _ ?_)
      exact List.mem_map.mpr ⟨(k, n), List.mem_filter.mpr
        ⟨mem_entries_of_node? hk hnode, by simpa using hk⟩, rfl⟩
  | none =>
      rw [node?_eq_none_iff hnil]
      intro hmem
      obtain ⟨⟨_, n⟩, hentry, rfl⟩ := List.mem_map.mp hmem
      rcases List.mem_append.mp hentry with hway | hbelow
      · have hlength := (mem_wayTo_iff.mp hway).2.2.length_le
        have := List.length_pos_iff.mpr hk
        rw [List.length_append] at hlength
        omega
      · obtain ⟨e, he, heq⟩ := List.mem_map.mp hbelow
        have hkey : e.1 = k := List.append_cancel_left (Prod.mk.inj heq).1
        refine (node?_eq_none_iff hk).mp hnode ?_
        rw [← hkey]
        exact List.mem_map_of_mem (List.mem_filter.mp he).1

theorem sameBelow_treeAt
    (tree : FileSystem) {l l' : Location} (hl : IsNamed l) (hl' : IsNamed l') :
    SameBelow (treeAt l tree hl) (treeAt l' tree hl') l l' := by
  intro k
  rw [node?_treeAt, node?_treeAt]

end AssetMinifier.FileSystem
