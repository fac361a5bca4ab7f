import AssetMinifier.Proofs.Path.Leaf

/-!
# Cleaned paths

Cleaning reduces a path to names, behind the `..` that lead out of where it
starts.  A relative path that does not lead out is put behind an absolute one
by putting its names behind the names there, and that is also how it is found
again from there.
-/

namespace AssetMinifier.Path

/-! ## Names -/

theorem cleanSegment_of_skip
    {segment : Text} (h : segment = [] ∨ segment = here)
    (absolute : Bool) (done : List Text) :
    cleanSegment absolute done segment = done := by
  rw [cleanSegment.eq_def, if_pos]
  simpa using h

theorem cleanSegment_parent
    (absolute : Bool) (done : List Text) :
    cleanSegment absolute done parent =
      match done with
      | [] => if absolute then [] else [parent]
      | last :: before =>
        if last = parent then parent :: last :: before else before := by
  cases done with
  | nil => rfl
  | cons last before => rfl

theorem cleanSegment_parent_cons
    (absolute : Bool) {last : Text} (h : last ≠ parent) (before : List Text) :
    cleanSegment absolute (last :: before) parent = before := by
  rw [cleanSegment_parent]
  exact if_neg h

theorem foldl_cleanSegment_names
    {names : List Text} (h : ∀ name ∈ names, IsProper name)
    (absolute : Bool) (done : List Text) :
    names.foldl (cleanSegment absolute) done = names.reverse ++ done := by
  induction names generalizing done with
  | nil => rfl
  | cons name names ih =>
      rw [List.foldl_cons, cleanSegment_of_isProper (h name List.mem_cons_self),
        ih fun other hother => h other (List.mem_cons_of_mem name hother)]
      simp

theorem isAbsolute_ofSegments
    (absolute : Bool) {names : List Text} (h : ∀ name ∈ names, IsName name) :
    isAbsolute (ofSegments absolute names) = absolute := by
  cases absolute with
  | true => rfl
  | false =>
      cases names with
      | nil => rfl
      | cons name names =>
          obtain ⟨⟨hne, -⟩, hseparator⟩ := h name List.mem_cons_self
          obtain ⟨b, rest, rfl⟩ := List.exists_cons_of_ne_nil hne
          have hb : b ≠ separator := fun hb => hseparator (hb ▸ List.mem_cons_self)
          have hhead : (Text.join [separator] ((b :: rest) :: names)).head? =
              some b := by
            cases names with
            | nil => rfl
            | cons next names => rfl
          simp [isAbsolute, ofSegments, hhead, hb]

theorem splitOn_ofSegments
    (absolute : Bool) {names : List Text} (h : ∀ name ∈ names, IsName name)
    (hne : names ≠ []) :
    Text.splitOn separator (ofSegments absolute names) =
      (if absolute then [[]] else []) ++ names := by
  have hsplit := Text.splitOn_join hne fun name hname => (h name hname).2
  cases absolute with
  | true =>
      have hlead := Text.splitOn_append_separator separator []
        (Text.join [separator] names)
      rw [List.nil_append, hsplit] at hlead
      exact hlead
  | false =>
      have hpath : ofSegments false names = Text.join [separator] names := by
        simp [ofSegments, hne]
      rw [hpath, hsplit]
      rfl

/-- A path made of names has these names. -/
theorem cleanSegments_ofSegments
    (absolute : Bool) {names : List Text} (h : ∀ name ∈ names, IsName name) :
    cleanSegments (ofSegments absolute names) = names := by
  have hfold := foldl_cleanSegment_names (fun name hname => (h name hname).1)
    absolute []
  have hskip : cleanSegment absolute [] [] = [] :=
    cleanSegment_of_skip (Or.inl rfl) absolute []
  rw [cleanSegments, isAbsolute_ofSegments absolute h]
  by_cases hne : names = []
  · subst hne
    cases absolute <;> rfl
  · rw [splitOn_ofSegments absolute h hne]
    cases absolute with
    | true => simp [hskip, hfold]
    | false => simp [hfold]

/-! ## What cleaning leaves -/

theorem mem_cleanSegment
    {absolute : Bool} {done : List Text} {segment name : Text}
    (h : name ∈ cleanSegment absolute done segment) :
    name ∈ done ∨ name = segment ∧ name ≠ [] ∧ name ≠ here := by
  rcases isProper_or segment with hproper | hskip | rfl
  · rw [cleanSegment_of_isProper hproper, List.mem_cons] at h
    rcases h with rfl | h
    · exact Or.inr ⟨rfl, hproper.1, hproper.2.1⟩
    · exact Or.inl h
  · rw [cleanSegment_of_skip hskip] at h
    exact Or.inl h
  · by_cases hname : name = parent
    · rw [hname]
      exact Or.inr ⟨rfl, by decide, by decide⟩
    · left
      rw [cleanSegment_parent] at h
      split at h
      · cases absolute <;> simp [hname] at h
      · split at h
        · simpa [hname] using h
        · exact List.mem_cons_of_mem _ h

theorem separator_notMem_of_mem_cleanSegments
    {p name : Text} (h : name ∈ cleanSegments p) :
    separator ∉ name ∧ name ≠ [] ∧ name ≠ here := by
  rw [cleanSegments, List.mem_reverse] at h
  refine List.foldlRecOn (motive := fun done => ∀ name ∈ done,
    separator ∉ name ∧ name ≠ [] ∧ name ≠ here) _ _ (by simp) ?_ name h
  intro done hdone segment hsegment name hname
  rcases mem_cleanSegment hname with hmem | ⟨rfl, hne⟩
  · exact hdone name hmem
  · exact ⟨Text.notMem_of_mem_splitOn hsegment, hne⟩

/-- Nothing leads out of the root. -/
theorem parent_notMem_of_isAbsolute
    {p : Text} (h : isAbsolute p = true) :
    parent ∉ cleanSegments p := by
  rw [cleanSegments, List.mem_reverse, h]
  refine List.foldlRecOn (motive := fun done => parent ∉ done) _ _ (by simp) ?_
  intro done hdone segment _
  rcases isProper_or segment with hproper | hskip | rfl
  · rw [cleanSegment_of_isProper hproper, List.mem_cons, not_or]
    exact ⟨fun heq => hproper.2.2 heq.symm, hdone⟩
  · rw [cleanSegment_of_skip hskip]
    exact hdone
  · cases done with
    | nil => decide
    | cons last before =>
        rw [List.mem_cons, not_or] at hdone
        rw [cleanSegment_parent_cons true fun heq => hdone.1 heq.symm]
        exact hdone.2

/-- What leads out stands in front of all names. -/
theorem parent_notMem_of_head?
    {p : Text} (h : (cleanSegments p).head? ≠ some parent) :
    parent ∉ cleanSegments p := by
  have hstack : ((Text.splitOn separator p).foldl
      (cleanSegment (isAbsolute p)) []).Pairwise
        fun upper lower => upper = parent → lower = parent := by
    refine List.foldlRecOn (motive := List.Pairwise fun upper lower =>
      upper = parent → lower = parent) _ _ List.Pairwise.nil ?_
    intro done hdone segment _
    rcases isProper_or segment with hproper | hskip | rfl
    · rw [cleanSegment_of_isProper hproper]
      exact List.pairwise_cons.mpr
        ⟨fun _ _ heq => absurd heq hproper.2.2, hdone⟩
    · rw [cleanSegment_of_skip hskip]
      exact hdone
    · rw [cleanSegment_parent]
      split
      · cases isAbsolute p <;> simp
      · rename_i last before
        split
        · rename_i hlast
          refine List.pairwise_cons.mpr ⟨fun lower hlower _ => ?_, hdone⟩
          rcases List.mem_cons.mp hlower with rfl | hlower
          · exact hlast
          · exact (List.pairwise_cons.mp hdone).1 lower hlower hlast
        · exact (List.pairwise_cons.mp hdone).2
  rw [cleanSegments, List.head?_reverse] at h
  rw [cleanSegments, List.mem_reverse]
  intro hmem
  obtain ⟨front, back, heq⟩ := List.append_of_mem hmem
  rw [heq] at h hstack
  rcases List.eq_nil_or_concat back with rfl | ⟨back, last, rfl⟩
  · exact h List.getLast?_concat
  · have hlast := (List.pairwise_cons.mp (List.pairwise_append.mp hstack).2.1).1
      last (by simp) rfl
    apply h
    rw [List.concat_eq_append, ← List.cons_append, ← List.append_assoc,
      List.getLast?_concat, hlast]

theorem isName_of_mem_cleanSegments
    {p : Text} (h : parent ∉ cleanSegments p) :
    ∀ name ∈ cleanSegments p, IsName name := by
  intro name hname
  obtain ⟨hseparator, hne, hhere⟩ := separator_notMem_of_mem_cleanSegments hname
  exact ⟨⟨hne, hhere, fun heq => h (heq ▸ hname)⟩, hseparator⟩

/-! ## Putting paths together -/

theorem parent_mem_cleanSegment
    {done : List Text} (h : parent ∈ done) (segment : Text) :
    parent ∈ cleanSegment false done segment := by
  rcases isProper_or segment with hproper | hskip | rfl
  · rw [cleanSegment_of_isProper hproper]
    exact List.mem_cons_of_mem segment h
  · rwa [cleanSegment_of_skip hskip]
  · cases done with
    | nil => cases h
    | cons last before =>
        by_cases hlast : last = parent
        · simp [cleanSegment_parent, hlast]
        · rw [cleanSegment_parent_cons false hlast]
          exact (List.mem_cons.mp h).resolve_left fun heq => hlast heq.symm

theorem parent_mem_foldl_cleanSegment
    {done : List Text} (h : parent ∈ done) (segments : List Text) :
    parent ∈ segments.foldl (cleanSegment false) done :=
  List.foldlRecOn (motive := fun done => parent ∈ done) segments _ h
    fun _ hdone segment _ => parent_mem_cleanSegment hdone segment

/-- Segments that do not lead out of where they start are cleaned without
regard to what stands before them. -/
theorem foldl_cleanSegment_append
    {segments : List Text} (absolute : Bool) {names : List Text}
    (h : parent ∉ segments.foldl (cleanSegment false) names)
    (done : List Text) :
    segments.foldl (cleanSegment absolute) (names ++ done) =
      segments.foldl (cleanSegment false) names ++ done := by
  induction segments generalizing names with
  | nil => rfl
  | cons segment segments ih =>
      rw [List.foldl_cons] at h
      rw [List.foldl_cons, List.foldl_cons]
      rcases isProper_or segment with hproper | hskip | rfl
      · rw [cleanSegment_of_isProper hproper] at h ⊢
        rw [cleanSegment_of_isProper hproper, ← List.cons_append]
        exact ih h
      · rw [cleanSegment_of_skip hskip] at h ⊢
        rw [cleanSegment_of_skip hskip]
        exact ih h
      · cases names with
        | nil =>
            -- The `..` would lead out, and nothing takes it back.
            refine absurd (parent_mem_foldl_cleanSegment ?_ segments) h
            decide
        | cons last names =>
            have hlast : last ≠ parent := by
              rintro rfl
              exact h (parent_mem_foldl_cleanSegment
                (parent_mem_cleanSegment List.mem_cons_self parent) segments)
            rw [cleanSegment_parent_cons false hlast] at h ⊢
            rw [List.cons_append, cleanSegment_parent_cons absolute hlast]
            exact ih h

theorem ne_nil_of_isAbsolute
    {p : Text} (h : isAbsolute p = true) :
    p ≠ [] := by
  rintro rfl
  cases h

theorem isAbsolute_append
    {p : Text} (h : p ≠ []) (q : Text) :
    isAbsolute (p ++ q) = isAbsolute p := by
  obtain ⟨b, p, rfl⟩ := List.exists_cons_of_ne_nil h
  rfl

/-- A path that stays inside is put behind another one name by name. -/
theorem join_eq
    {p q : Text} (hp : p ≠ []) (hq : isAbsolute q = false)
    (hinside : parent ∉ cleanSegments q) :
    join p q =
      ofSegments (isAbsolute p) (cleanSegments p ++ cleanSegments q) := by
  have hjoin : join p q = clean (p ++ separator :: q) := by
    simp [join, hp]
  rw [cleanSegments, hq, List.mem_reverse] at hinside
  rw [hjoin, clean, isAbsolute_append hp, cleanSegments,
    isAbsolute_append hp, Text.splitOn_append_separator,
    List.foldl_append]
  have hfold := foldl_cleanSegment_append (isAbsolute p) hinside
    ((Text.splitOn separator p).foldl (cleanSegment (isAbsolute p)) [])
  rw [List.nil_append] at hfold
  rw [hfold, List.reverse_append, cleanSegments, cleanSegments, hq]

/-- A name in a directory. -/
theorem join_name
    (dir : Text) {name : Text} (h : IsName name) :
    join dir name = ofSegments (isAbsolute dir) (cleanSegments dir ++ [name]) := by
  have hnames : ∀ other ∈ [name], IsName other := by simpa using h
  have hname : ofSegments false [name] = name := rfl
  have hrelative := isAbsolute_ofSegments false hnames
  have hsegments := cleanSegments_ofSegments false hnames
  rw [hname] at hrelative hsegments
  by_cases hdir : dir = []
  · subst hdir
    have hjoin : join [] name = clean name := by
      simp [join, h.1.1]
    rw [hjoin, clean, hrelative, hsegments]
    rfl
  · have hinside : parent ∉ cleanSegments name := by
      rw [hsegments, List.mem_singleton]
      exact fun heq => h.1.2.2 heq.symm
    rw [join_eq hdir hrelative hinside, hsegments]

/-! ## The way back -/

theorem dropCommon_append
    (segments names : List Text) :
    dropCommon segments (segments ++ names) = ([], names) := by
  induction segments with
  | nil => cases names <;> rfl
  | cons segment segments ih => simp [dropCommon, ih]

/-- From an absolute path, names behind its own lead to what they name. -/
theorem relative?_ofSegments
    {p : Text} (hp : isAbsolute p = true)
    {names : List Text} (h : ∀ name ∈ names, IsName name) :
    relative? p (ofSegments true (cleanSegments p ++ names)) =
      some (ofSegments false names) := by
  have hnames : ∀ name ∈ cleanSegments p ++ names, IsName name := by
    intro name hname
    rcases List.mem_append.mp hname with hname | hname
    · exact isName_of_mem_cleanSegments (parent_notMem_of_isAbsolute hp) name hname
    · exact h name hname
  rw [relative?, isAbsolute_ofSegments true hnames, if_pos hp,
    cleanSegments_ofSegments true hnames, dropCommon_append]
  cases names with
  | nil => rfl
  | cons name names => simp [ofSegments]

/-! ## Bytes and lengths -/

theorem mem_ofSegments_true_iff
    {b : UInt8} (hb : b ≠ separator) {segments : List Text} :
    b ∈ ofSegments true segments ↔ ∃ segment ∈ segments, b ∈ segment := by
  have hjoin : b ∈ Text.join [separator] segments ↔
      ∃ segment ∈ segments, b ∈ segment := by
    induction segments with
    | nil => simp [Text.join]
    | cons segment segments ih =>
        cases segments with
        | nil => simp [Text.join]
        | cons next segments => simp [Text.join, hb, ih]
  have hpath : ofSegments true segments =
      separator :: Text.join [separator] segments := rfl
  rw [hpath, List.mem_cons, hjoin]
  exact or_iff_right hb


theorem length_ofSegments_lt
    (segments : List Text) {name : Text} (h : name ≠ []) :
    (ofSegments true segments).length <
      (ofSegments true (segments ++ [name])).length := by
  have hpos : 0 < name.length := List.length_pos_iff.mpr h
  by_cases hnil : segments = []
  · simp [hnil, ofSegments, Text.join, hpos]
  · have hjoin := Text.join_append [separator] hnil (List.cons_ne_nil name [])
    simp [ofSegments, hjoin]

end AssetMinifier.Path
