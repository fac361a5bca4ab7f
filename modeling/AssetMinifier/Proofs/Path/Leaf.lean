import AssetMinifier.Path.Basic
import AssetMinifier.Proofs.Text.Split
import Mathlib.Data.List.DropRight

/-!
# Last segments

What a path is called is what follows its last slash.  Joining and cleaning
paths keep this last segment if it names something, and a path is read through
the same segments if another name stands in its place.
-/

namespace AssetMinifier

namespace Text

theorem rdropWhile_ne_eq_nil_or
    (b : UInt8) (t : Text) :
    t.rdropWhile (· ≠ b) = [] ∨ ∃ s, t.rdropWhile (· ≠ b) = s ++ [b] := by
  by_cases hnil : t.rdropWhile (· ≠ b) = []
  · exact Or.inl hnil
  · have hlast : (t.rdropWhile (· ≠ b)).getLast hnil = b := by
      have hnot := List.rdropWhile_last_not (· ≠ b) t hnil
      rwa [decide_eq_true_eq, not_not] at hnot
    have hsplit := List.dropLast_append_getLast hnil
    rw [hlast] at hsplit
    exact Or.inr ⟨_, hsplit.symm⟩

theorem rtakeWhile_ne_of_notMem
    {b : UInt8} {t : Text} (h : b ∉ t) :
    t.rtakeWhile (· ≠ b) = t := by
  refine List.rtakeWhile_eq_self_iff.mpr fun c hc => ?_
  have hne : c ≠ b := fun heq => h (heq ▸ hc)
  simpa using hne

theorem rtakeWhile_ne_append_cons
    (b : UInt8) (s t : Text) :
    (s ++ b :: t).rtakeWhile (· ≠ b) = t.rtakeWhile (· ≠ b) := by
  induction t using List.reverseRecOn with
  | nil => simp
  | append_singleton t c ih =>
      have happend : s ++ b :: (t ++ [c]) = (s ++ b :: t) ++ [c] := by
        simp
      rw [happend, List.rtakeWhile_concat, List.rtakeWhile_concat, ih]

end Text

namespace Path

/-- The last segment of a path. -/
def leaf (p : Text) : Text :=
  p.rtakeWhile (· ≠ separator)

/-- A path without its last segment. -/
def lead (p : Text) : Text :=
  p.rdropWhile (· ≠ separator)

theorem lead_append_leaf
    (p : Text) :
    lead p ++ leaf p = p :=
  List.rdropWhile_append_rtakeWhile

theorem separator_notMem_leaf
    (p : Text) :
    separator ∉ leaf p := by
  intro h
  simpa using List.mem_rtakeWhile_imp h

theorem leaf_of_notMem
    {name : Text} (h : separator ∉ name) :
    leaf name = name :=
  Text.rtakeWhile_ne_of_notMem h

theorem lead_eq_nil_or
    (p : Text) :
    lead p = [] ∨ ∃ s, lead p = s ++ [separator] :=
  Text.rdropWhile_ne_eq_nil_or separator p

theorem leaf_append_separator
    (s t : Text) :
    leaf (s ++ separator :: t) = leaf t :=
  Text.rtakeWhile_ne_append_cons separator s t

@[simp]
theorem leaf_leaf
    (p : Text) :
    leaf (leaf p) = leaf p :=
  leaf_of_notMem (separator_notMem_leaf p)

theorem leaf_lead_append
    (p : Text) {name : Text} (h : separator ∉ name) :
    leaf (lead p ++ name) = name := by
  rcases lead_eq_nil_or p with hlead | ⟨s, hlead⟩
  · rw [hlead, List.nil_append, leaf_of_notMem h]
  · rw [hlead, List.append_assoc, List.singleton_append,
      leaf_append_separator, leaf_of_notMem h]

theorem lead_lead_append
    (p : Text) {name : Text} (h : separator ∉ name) :
    lead (lead p ++ name) = lead p := by
  have hsplit := lead_append_leaf (lead p ++ name)
  rw [leaf_lead_append p h] at hsplit
  exact List.append_cancel_right hsplit

/-! ## Segments -/

/-- The segments of a path but the last one. -/
def leadSegments (p : Text) : List Text :=
  (Text.splitOn separator p).dropLast

theorem splitOn_lead_append
    (p : Text) {name : Text} (h : separator ∉ name) :
    Text.splitOn separator (lead p ++ name) = leadSegments p ++ [name] := by
  -- Whatever name stands behind the lead, the segments before it are the same.
  have hsame : ∃ segments, ∀ name, separator ∉ name →
      Text.splitOn separator (lead p ++ name) = segments ++ [name] := by
    rcases lead_eq_nil_or p with hlead | ⟨s, hlead⟩
    · refine ⟨[], fun name hname => ?_⟩
      rw [hlead, List.nil_append, Text.splitOn_of_notMem hname,
        List.nil_append]
    · refine ⟨Text.splitOn separator s, fun name hname => ?_⟩
      rw [hlead, List.append_assoc, List.singleton_append,
        Text.splitOn_append_separator, Text.splitOn_of_notMem hname]
  obtain ⟨segments, hsegments⟩ := hsame
  have hself := hsegments (leaf p) (separator_notMem_leaf p)
  rw [lead_append_leaf] at hself
  rw [hsegments name h, leadSegments, hself, List.dropLast_concat]

theorem splitOn_eq
    (p : Text) :
    Text.splitOn separator p = leadSegments p ++ [leaf p] := by
  have h := splitOn_lead_append p (separator_notMem_leaf p)
  rwa [lead_append_leaf] at h

theorem isAbsolute_lead_append
    (p : Text) {name : Text} (h : separator ∉ name) :
    isAbsolute (lead p ++ name) = isAbsolute p := by
  have hhead : ∀ {t : Text}, separator ∉ t → t.head? ≠ some separator :=
    fun ht hhead => ht (List.mem_of_head? hhead)
  rcases lead_eq_nil_or p with hlead | ⟨s, hlead⟩
  · have hp := lead_append_leaf p
    rw [hlead, List.nil_append] at hp
    have hleaf := hhead (separator_notMem_leaf p)
    rw [hp] at hleaf
    simp [isAbsolute, hlead, hhead h, hleaf]
  · have hsame : (lead p ++ name).head? = (lead p ++ leaf p).head? := by
      rw [hlead]
      cases s <;> rfl
    rw [isAbsolute, hsame, lead_append_leaf, isAbsolute]

theorem isProper_or
    (segment : Text) :
    IsProper segment ∨ (segment = [] ∨ segment = here) ∨ segment = parent := by
  by_cases hskip : segment = [] ∨ segment = here
  · exact Or.inr (Or.inl hskip)
  · by_cases hparent : segment = parent
    · exact Or.inr (Or.inr hparent)
    · exact Or.inl ⟨fun h => hskip (Or.inl h), fun h => hskip (Or.inr h),
        hparent⟩

theorem cleanSegment_of_isProper
    {name : Text} (h : IsProper name)
    (absolute : Bool) (done : List Text) :
    cleanSegment absolute done name = name :: done := by
  obtain ⟨hne, hhere, hparent⟩ := h
  simp [cleanSegment, hne, hhere, hparent]

theorem leaf_ofSegments_concat
    (absolute : Bool) (segments : List Text) (name : Text) :
    leaf (ofSegments absolute (segments ++ [name])) = leaf name := by
  have hjoin :
      leaf (Text.join [separator] (segments ++ [name])) = leaf name := by
    rcases Text.join_concat [separator] name segments with hlast | ⟨s, hs⟩
    · rw [hlast]
    · rw [hs, List.append_assoc, List.singleton_append,
        leaf_append_separator]
  cases absolute with
  | true =>
      have hlead := leaf_append_separator []
        (Text.join [separator] (segments ++ [name]))
      rw [List.nil_append, hjoin] at hlead
      simpa [ofSegments] using hlead
  | false => simpa [ofSegments] using hjoin

theorem leaf_clean
    {p : Text} (h : IsProper (leaf p)) :
    leaf (clean p) = leaf p := by
  have hsegments : cleanSegments p =
      ((leadSegments p).foldl (cleanSegment (isAbsolute p)) []).reverse ++
        [leaf p] := by
    rw [cleanSegments, splitOn_eq, List.foldl_append, List.foldl_cons,
      List.foldl_nil, cleanSegment_of_isProper h, List.reverse_cons]
  rw [clean, hsegments, leaf_ofSegments_concat, leaf_leaf]

theorem leaf_join
    (dir : Text) {name : Text} (h : IsProper (leaf name)) :
    leaf (join dir name) = leaf name := by
  have hname : name ≠ [] := by
    rintro rfl
    exact h.1 rfl
  by_cases hdir : dir = []
  · simpa [join, hdir, hname] using leaf_clean h
  · have hleaf := leaf_append_separator dir name
    have hclean := leaf_clean (p := dir ++ separator :: name)
      (by rwa [hleaf])
    rw [hleaf] at hclean
    simpa [join, hdir] using hclean

theorem reversedName_eq
    (p : Text) :
    reversedName p = (leaf p).reverse := by
  rw [leaf, List.rtakeWhile, List.reverse_reverse, reversedName]

/-- A path that does not end in a slash has its last segment as its base. -/
theorem base_eq_leaf
    {p : Text} (h : leaf p ≠ []) :
    base p = leaf p := by
  have hp : p ≠ [] := by
    rintro rfl
    exact h rfl
  have hlast : p.getLast hp ≠ separator := by
    intro hlast
    have hsplit := List.dropLast_append_getLast hp
    rw [hlast] at hsplit
    have hleaf := leaf_append_separator p.dropLast []
    rw [hsplit] at hleaf
    exact h hleaf
  have hkeep : (p.reverse.dropWhile (· = separator)).reverse = p := by
    have hself : p.rdropWhile (· = separator) = p :=
      List.rdropWhile_eq_self_iff.mpr fun _ => by simpa using hlast
    exact hself
  simp [base, hp, hkeep, reversedName_eq, h]

/-! ## Extensions -/

theorem extension_eq
    (p : Text) :
    extension p =
      if dot ∈ leaf p then dot :: (leaf p).rtakeWhile (· ≠ dot) else [] := by
  simp only [extension, reversedName_eq, List.mem_reverse, List.rtakeWhile]

theorem extension_leaf
    (p : Text) :
    extension (leaf p) = extension p := by
  rw [extension_eq, leaf_leaf, ← extension_eq]

theorem dot_notMem_of_extension
    {p e : Text} (h : extension p = dot :: e) :
    dot ∉ e := by
  rw [extension_eq] at h
  split at h
  · obtain ⟨-, rfl⟩ := List.cons.inj h
    intro hmem
    simpa using List.mem_rtakeWhile_imp hmem
  · cases h

theorem exists_append_extension
    (p : Text) :
    ∃ s, leaf p = s ++ extension p := by
  rw [extension_eq]
  split
  · rename_i hdot
    have hsplit :
        (leaf p).rdropWhile (· ≠ dot) ++ (leaf p).rtakeWhile (· ≠ dot) =
          leaf p :=
      List.rdropWhile_append_rtakeWhile
    rcases Text.rdropWhile_ne_eq_nil_or dot (leaf p) with hnil | ⟨s, hs⟩
    · have hnot := List.rdropWhile_eq_nil_iff.mp hnil dot hdot
      simp at hnot
    · refine ⟨s, ?_⟩
      conv_lhs => rw [← hsplit, hs]
      simp
  · exact ⟨leaf p, by simp⟩

theorem separator_notMem_extension
    (p : Text) :
    separator ∉ extension p := by
  obtain ⟨s, hs⟩ := exists_append_extension p
  intro hmem
  exact separator_notMem_leaf p (hs ▸ List.mem_append_right s hmem)

theorem leaf_append
    (s : Text) {t : Text} (h : separator ∉ t) :
    leaf (s ++ t) = leaf s ++ t := by
  have hnotMem : separator ∉ leaf s ++ t := by
    intro hmem
    rcases List.mem_append.mp hmem with hmem | hmem
    · exact separator_notMem_leaf s hmem
    · exact h hmem
  have hleaf := leaf_lead_append s hnotMem
  rwa [← List.append_assoc, lead_append_leaf] at hleaf

theorem extension_append
    (s : Text) {e : Text} (hdot : dot ∉ e) (hseparator : separator ∉ e) :
    extension (s ++ dot :: e) = dot :: e := by
  have hnotMem : separator ∉ dot :: e := by
    simpa [separator, dot] using hseparator
  have hleaf : leaf (s ++ dot :: e) = leaf s ++ dot :: e :=
    leaf_append s hnotMem
  have hmem : dot ∈ leaf s ++ dot :: e := by simp
  rw [extension_eq, hleaf, if_pos hmem, Text.rtakeWhile_ne_append_cons,
    Text.rtakeWhile_ne_of_notMem hdot]

end Path

end AssetMinifier
