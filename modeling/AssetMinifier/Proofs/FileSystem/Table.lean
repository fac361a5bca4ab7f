import AssetMinifier.FileSystem.Basic
import Mathlib.Data.List.Sort

/-!
# The table of nodes

What stands at a location after something was put into the table, and which
names a directory has.  Two tables list the same names of some class if the
same locations of that class hold something.
-/

namespace AssetMinifier.FileSystem

/-! ## Putting a node -/

@[simp]
theorem node?_nil
    (fs : FileSystem) :
    fs.node? [] = some .directory :=
  rfl

theorem node?_of_ne_nil
    (fs : FileSystem) {l : Location} (h : l ≠ []) :
    fs.node? l = fs.entries.lookup l := by
  simp [node?, h]

theorem put_of_not_isNamed
    (fs : FileSystem) {l : Location} (h : ¬IsNamed l) (n : Node) :
    fs.put l n = fs :=
  dif_neg h

theorem entries_put
    (fs : FileSystem) {l : Location} (h : IsNamed l) (n : Node) :
    (fs.put l n).entries = putEntry fs.entries l n := by
  rw [put, dif_pos h]

@[simp]
theorem workingDirectory_put
    (fs : FileSystem) (l : Location) (n : Node) :
    (fs.put l n).workingDirectory = fs.workingDirectory := by
  rw [put]
  split <;> rfl

@[simp]
theorem defects_put
    (fs : FileSystem) (l : Location) (n : Node) :
    (fs.put l n).defects = fs.defects := by
  rw [put]
  split <;> rfl

theorem mem_entries_of_node?
    {fs : FileSystem} {l : Location} (h : l ≠ []) {n : Node}
    (hnode : fs.node? l = some n) :
    (l, n) ∈ fs.entries := by
  rw [node?_of_ne_nil fs h] at hnode
  obtain ⟨before, after, hentries, -⟩ := List.lookup_eq_some_iff.mp hnode
  simp [hentries]

/-- The table says one thing of a location. -/
theorem node?_of_mem_entries
    {fs : FileSystem} {l : Location} (h : l ≠ []) {n : Node}
    (hmem : (l, n) ∈ fs.entries) :
    fs.node? l = some n := by
  have hfound : (fs.node? l).isSome := by
    rw [node?_of_ne_nil fs h, List.lookup_isSome_iff]
    exact ⟨_, hmem, by simp⟩
  obtain ⟨m, hm⟩ := Option.isSome_iff_exists.mp hfound
  have hpair := List.inj_on_of_nodup_map fs.nodup_entries
    (mem_entries_of_node? h hm) hmem rfl
  rw [hm, (Prod.mk.inj hpair).2]

theorem node?_put_self
    (fs : FileSystem) {l : Location} (h : l ≠ []) (hl : IsNamed l) (n : Node) :
    (fs.put l n).node? l = some n := by
  apply node?_of_mem_entries h
  rw [entries_put fs hl]
  exact mem_putEntry_iff.mpr (Or.inl rfl)

theorem lookup_replace_of_ne
    (entries : List (Location × Node)) {l k : Location} (h : k ≠ l) (n : Node) :
    (entries.map fun e => if e.1 = l then (l, n) else e).lookup k =
      entries.lookup k := by
  induction entries with
  | nil => rfl
  | cons e entries ih =>
      obtain ⟨key, m⟩ := e
      by_cases hkey : key = l
      · have hkl : (k == l) = false := beq_eq_false_iff_ne.mpr h
        simp [List.lookup_cons, hkey, hkl, ih]
      · simp [List.lookup_cons, hkey, ih]

theorem lookup_putEntry_of_ne
    (entries : List (Location × Node)) {l k : Location} (h : k ≠ l) (n : Node) :
    (putEntry entries l n).lookup k = entries.lookup k := by
  rw [putEntry]
  split
  · exact lookup_replace_of_ne entries h n
  · have hkl : (k == l) = false := beq_eq_false_iff_ne.mpr h
    simp [List.lookup_append, List.lookup_cons, hkl]

theorem node?_put_of_ne
    (fs : FileSystem) {l k : Location} (h : k ≠ l) (n : Node) :
    (fs.put l n).node? k = fs.node? k := by
  by_cases hl : IsNamed l
  · by_cases hk : k = []
    · simp [hk]
    · rw [node?_of_ne_nil _ hk, node?_of_ne_nil _ hk, entries_put fs hl,
        lookup_putEntry_of_ne fs.entries h]
  · rw [put_of_not_isNamed fs hl]

/-- Nothing changes if a node is put where it is. -/
theorem put_eq_self
    {fs : FileSystem} {l : Location} (h : l ≠ []) {n : Node}
    (hnode : fs.node? l = some n) :
    fs.put l n = fs := by
  by_cases hl : IsNamed l
  · have hmem := mem_entries_of_node? h hnode
    have hany : (fs.entries.any fun e => e.1 = l) = true :=
      List.any_eq_true.mpr ⟨(l, n), hmem, by simp⟩
    have hmap : (fs.entries.map fun e => if e.1 = l then (l, n) else e) =
        fs.entries := by
      conv_rhs => rw [← List.map_id fs.entries]
      refine List.map_congr_left fun e he => ?_
      split
      · rename_i hkey
        exact List.inj_on_of_nodup_map fs.nodup_entries hmem he hkey.symm
      · rfl
    refine FileSystem.ext ?_ (workingDirectory_put fs l n) (defects_put fs l n)
    rw [entries_put fs hl, putEntry, if_pos hany, hmap]
  · exact put_of_not_isNamed fs hl n

/-! ## The locations of the table -/

theorem isNamed_of_node?
    {fs : FileSystem} {l : Location} (hl : (fs.node? l).isSome) :
    IsNamed l := by
  by_cases hnil : l = []
  · subst hnil
    exact isNamed_nil
  · obtain ⟨n, hn⟩ := Option.isSome_iff_exists.mp hl
    exact fs.isNamed_entries _ (mem_entries_of_node? hnil hn)

theorem node?_eq_none_iff
    {fs : FileSystem} {l : Location} (h : l ≠ []) :
    fs.node? l = none ↔ l ∉ fs.entries.map Prod.fst := by
  rw [node?_of_ne_nil fs h, List.lookup_eq_none_iff]
  constructor
  · intro hnone hmem
    obtain ⟨e, he, rfl⟩ := List.mem_map.mp hmem
    simpa using hnone e he
  · intro hmem e he
    rw [bne_iff_ne]
    rintro rfl
    exact hmem (List.mem_map_of_mem he)

/-- No location of the table is empty. -/
theorem filter_isNone_node?_eq_nil
    (fs : FileSystem) :
    ((fs.entries.map Prod.fst).filter fun l => (fs.node? l).isNone) = [] := by
  rw [List.filter_eq_nil_iff]
  intro l hl hnone
  have hnode : fs.node? l = none := by simpa using hnone
  by_cases hne : l = []
  · simp [hne] at hnode
  · exact (node?_eq_none_iff hne).mp hnode hl

/-- Putting a node adds its location to the table, unless it is there. -/
theorem map_fst_entries_put
    (fs : FileSystem) {l : Location} (h : l ≠ []) (hl : IsNamed l) (n : Node) :
    (fs.put l n).entries.map Prod.fst =
      fs.entries.map Prod.fst ++ if (fs.node? l).isSome then [] else [l] := by
  have hold : l ∈ fs.entries.map Prod.fst ↔ (fs.node? l).isSome := by
    rw [Option.isSome_iff_ne_none, ne_eq, node?_eq_none_iff h, not_not]
  rw [entries_put fs hl, map_fst_putEntry]
  simp only [hold]

/-! ## Links -/

theorem node?_ne_link
    {fs : FileSystem} (h : fs.isLinkFree) (l : Location) (target : Text) :
    fs.node? l ≠ some (.link target) := by
  intro hlink
  by_cases hl : l = []
  · simp [hl] at hlink
  · have hfree := List.all_eq_true.mp h _ (mem_entries_of_node? hl hlink)
    simp [Node.isLink] at hfree

theorem isLinkFree_put_file
    {fs : FileSystem} (h : fs.isLinkFree) (l : Location) (data : Text) :
    (fs.put l (.file data)).isLinkFree := by
  by_cases hl : IsNamed l
  · refine List.all_eq_true.mpr fun e he => ?_
    rw [entries_put fs hl] at he
    rcases mem_putEntry_iff.mp he with rfl | ⟨hmem, -⟩
    · rfl
    · exact List.all_eq_true.mp h e hmem
  · rwa [put_of_not_isNamed fs hl]

/-! ## Names -/

theorem mem_insertName_iff
    {name n : Text} {ns : List Text} :
    n ∈ insertName name ns ↔ n = name ∨ n ∈ ns := by
  induction ns with
  | nil => simp [insertName]
  | cons first ns ih =>
      rw [insertName]
      split
      · exact List.mem_cons
      · split
        · rename_i heq
          rw [heq]
          simp
        · rw [List.mem_cons, ih, List.mem_cons]
          exact or_left_comm

theorem pairwise_insertName
    {ns : List Text} (h : ns.Pairwise (· < ·)) (name : Text) :
    (insertName name ns).Pairwise (· < ·) := by
  induction ns with
  | nil => simp [insertName]
  | cons first ns ih =>
      obtain ⟨hfirst, hns⟩ := List.pairwise_cons.mp h
      rw [insertName]
      split
      · rename_i hlt
        refine List.pairwise_cons.mpr ⟨fun n hn => ?_, h⟩
        rcases List.mem_cons.mp hn with rfl | hn
        · exact hlt
        · exact List.lt_trans hlt (hfirst n hn)
      · rename_i hnlt
        split
        · exact h
        · rename_i hne
          refine List.pairwise_cons.mpr ⟨fun n hn => ?_, ih hns⟩
          rcases mem_insertName_iff.mp hn with rfl | hn
          · rcases Std.lt_trichotomy n first with hlt | heq | hgt
            · exact absurd hlt hnlt
            · exact absurd heq hne
            · exact hgt
          · exact hfirst n hn

theorem nameIn?_eq_some_iff
    {dir l : Location} {name : Text} :
    nameIn? dir l = some name ↔ l = dir ++ [name] := by
  rw [nameIn?]
  constructor
  · intro h
    split at h
    · rename_i hdir
      obtain ⟨before, rfl⟩ := List.getLast?_eq_some_iff.mp h
      rw [List.dropLast_concat] at hdir
      rw [hdir]
    · cases h
  · rintro rfl
    simp

theorem mem_names_iff
    {fs : FileSystem} {dir : Location} {name : Text} :
    name ∈ fs.names dir ↔ (fs.node? (dir ++ [name])).isSome := by
  have hfold : ∀ names : List Text,
      name ∈ names.foldr insertName [] ↔ name ∈ names := by
    intro names
    induction names with
    | nil => simp
    | cons first names ih => simp [mem_insertName_iff, ih]
  rw [names, hfold, List.mem_filterMap, node?_of_ne_nil fs (by simp),
    List.lookup_isSome_iff]
  constructor
  · rintro ⟨e, he, hname⟩
    exact ⟨e, he, by simp [nameIn?_eq_some_iff.mp hname]⟩
  · rintro ⟨e, he, hkey⟩
    exact ⟨e, he, nameIn?_eq_some_iff.mpr (beq_iff_eq.mp hkey).symm⟩

theorem isName_of_mem_names
    {fs : FileSystem} {dir : Location} {name : Text} (h : name ∈ fs.names dir) :
    Path.IsName name :=
  isNamed_of_node? (mem_names_iff.mp h) name (by simp)

theorem pairwise_names
    (fs : FileSystem) (dir : Location) :
    (fs.names dir).Pairwise (· < ·) := by
  rw [names]
  induction fs.entries.filterMap fun e => nameIn? dir e.1 with
  | nil => exact List.Pairwise.nil
  | cons first names ih => exact pairwise_insertName ih first

/-- The names of a class depend only on which of its locations hold
something. -/
theorem filter_names_congr
    {fs fs' : FileSystem} {dir : Location} {p : Text → Bool}
    (h : ∀ name, p name →
      ((fs.node? (dir ++ [name])).isSome ↔ (fs'.node? (dir ++ [name])).isSome)) :
    (fs.names dir).filter p = (fs'.names dir).filter p := by
  refine List.Pairwise.eq_of_mem_iff ((pairwise_names fs dir).filter p)
    ((pairwise_names fs' dir).filter p) fun name => ?_
  rw [List.mem_filter, List.mem_filter, mem_names_iff, mem_names_iff]
  exact and_congr_left (h name)

end AssetMinifier.FileSystem
