import AssetMinifier.Path.Asset
import AssetMinifier.Proofs.Path.Leaf

/-!
# Names of sources and copies

The copy of a source stands beside it under a name of its own: it carries the
mark that no source carries, it has the source's extension, and it tells which
source it was made from.
-/

namespace AssetMinifier

namespace Path

theorem stem_append_extension
    (p : Text) :
    stem p ++ extension p = p := by
  obtain ⟨s, hs⟩ := exists_append_extension p
  have hsuffix : extension p <:+ p := by
    refine ⟨lead p ++ s, ?_⟩
    rw [List.append_assoc, ← hs, lead_append_leaf]
  exact List.suffix_iff_eq_append.mp hsuffix

theorem stem_eq
    (p : Text) :
    stem p = lead p ++ stem (leaf p) := by
  have hleaf := stem_append_extension (leaf p)
  rw [extension_leaf] at hleaf
  have hp : (lead p ++ stem (leaf p)) ++ extension p =
      stem p ++ extension p := by
    rw [List.append_assoc, hleaf, lead_append_leaf, stem_append_extension]
  exact (List.append_cancel_right hp).symm

end Path

namespace Asset

theorem target_eq
    (p : Text) :
    target p = Path.lead p ++ target (Path.leaf p) := by
  rw [target, target, Path.stem_eq p, Path.extension_leaf]
  simp only [List.append_assoc]

theorem notMem_target
    {b : UInt8} (hmark : b ∉ mark) {p : Text} (h : b ∉ p) :
    b ∉ target p := by
  rw [← Path.stem_append_extension p, List.mem_append, not_or] at h
  simp only [target, List.mem_append, not_or]
  exact ⟨⟨h.1, hmark⟩, h.2⟩

theorem separator_notMem_target_leaf
    (p : Text) :
    Path.separator ∉ target (Path.leaf p) :=
  notMem_target (by decide) (Path.separator_notMem_leaf p)

theorem leaf_target
    (p : Text) :
    Path.leaf (target p) = target (Path.leaf p) := by
  rw [target_eq, Path.leaf_lead_append p (separator_notMem_target_leaf p)]

theorem lead_target
    (p : Text) :
    Path.lead (target p) = Path.lead p := by
  rw [target_eq, Path.lead_lead_append p (separator_notMem_target_leaf p)]

theorem extension_target
    {p : Text} (h : Path.extension p ≠ []) :
    Path.extension (target p) = Path.extension p := by
  obtain ⟨b, e, hextension⟩ := List.exists_cons_of_ne_nil h
  have hb : b = Path.dot := by
    rw [Path.extension_eq] at hextension
    split at hextension
    · exact (List.cons.inj hextension).1.symm
    · cases hextension
  subst hb
  have hseparator : Path.separator ∉ e := fun hmem =>
    Path.separator_notMem_extension p
      (hextension ▸ List.mem_cons_of_mem _ hmem)
  rw [target, hextension]
  exact Path.extension_append _ (Path.dot_notMem_of_extension hextension)
    hseparator

theorem stem_target
    {p : Text} (h : Path.extension p ≠ []) :
    Path.stem (target p) = Path.stem p ++ mark := by
  have hsplit := Path.stem_append_extension (target p)
  rw [extension_target h] at hsplit
  exact List.append_cancel_right hsplit

theorem isMinified_eq
    {p : Text} (h : Path.leaf p ≠ []) :
    isMinified p = mark.isSuffixOf (Path.stem (Path.leaf p)) := by
  rw [isMinified, Path.base_eq_leaf h]

theorem isMinified_leaf
    {p : Text} (h : Path.leaf p ≠ []) :
    isMinified (Path.leaf p) = isMinified p := by
  rw [isMinified_eq h, isMinified_eq (by rwa [Path.leaf_leaf]),
    Path.leaf_leaf]

theorem target_ne_nil
    (p : Text) :
    target p ≠ [] := by
  have hmark : mark ≠ [] := by decide
  simp [target, hmark]

theorem isMinified_target
    {p : Text} (h : Path.extension p ≠ []) :
    isMinified (target p) = true := by
  have hleaf : Path.leaf (target p) ≠ [] := by
    rw [leaf_target]
    exact target_ne_nil _
  rw [isMinified_eq hleaf, leaf_target, stem_target (by rwa [Path.extension_leaf]),
    List.isSuffixOf_iff_suffix]
  exact List.suffix_append _ _

theorem target_inj
    {p q : Text} (hp : Path.extension p ≠ []) (hq : Path.extension q ≠ [])
    (h : target p = target q) :
    p = q := by
  have hextension : Path.extension p = Path.extension q := by
    rw [← extension_target hp, ← extension_target hq, h]
  have hstem : Path.stem p ++ mark = Path.stem q ++ mark := by
    rw [← stem_target hp, ← stem_target hq, h]
  rw [← Path.stem_append_extension p, ← Path.stem_append_extension q,
    hextension, List.append_cancel_right hstem]

/-! ## Paths without an extension -/

/-- At the end of a path the mark is an extension. -/
theorem extension_append_mark
    (p : Text) :
    Path.extension (p ++ mark) = mark :=
  Path.extension_append p (by decide) (by decide)

theorem stem_append_mark
    (p : Text) :
    Path.stem (p ++ mark) = p := by
  have hsplit := Path.stem_append_extension (p ++ mark)
  rw [extension_append_mark] at hsplit
  exact List.append_cancel_right hsplit

theorem target_of_extension_eq_nil
    {p : Text} (h : Path.extension p = []) :
    target p = p ++ mark := by
  have hstem := Path.stem_append_extension p
  rw [h, List.append_nil] at hstem
  rw [target, h, hstem, List.append_nil]

/-- Behind the mark there is an extension or there is none. -/
theorem target_ne_target
    {p q : Text} (hp : Path.extension p = []) (hq : Path.extension q ≠ []) :
    target p ≠ target q := by
  intro h
  have hstem : p = Path.stem q ++ mark := by
    rw [← stem_target hq, ← h, target_of_extension_eq_nil hp, stem_append_mark]
  rw [hstem, extension_append_mark] at hp
  exact absurd hp (by decide)

theorem target_injective : Function.Injective target := by
  intro p q h
  by_cases hp : Path.extension p = []
  · by_cases hq : Path.extension q = []
    · rw [target_of_extension_eq_nil hp, target_of_extension_eq_nil hq] at h
      exact List.append_cancel_right h
    · exact absurd h (target_ne_target hp hq)
  · by_cases hq : Path.extension q = []
    · exact absurd h.symm (target_ne_target hq hp)
    · exact target_inj hp hq h

/-! ## Sources -/

theorem ofPath_leaf
    (p : Text) :
    Kind.ofPath (Path.leaf p) = Kind.ofPath p := by
  rw [Kind.ofPath, Kind.ofPath, Path.extension_leaf]

theorem isSource_iff
    {p : Text} :
    isSource p = true ↔ Kind.ofPath p ≠ .unknown ∧ isMinified p = false := by
  simp [isSource]

theorem extension_ne_nil_of_ofPath
    {p : Text} (h : Kind.ofPath p ≠ .unknown) :
    Path.extension p ≠ [] := by
  intro hextension
  apply h
  rw [Kind.ofPath, hextension]
  decide

theorem extension_ne_nil_of_isSource
    {p : Text} (h : isSource p) :
    Path.extension p ≠ [] :=
  extension_ne_nil_of_ofPath (isSource_iff.mp h).1

theorem isProper_leaf_of_isSource
    {p : Text} (h : isSource p) :
    Path.IsProper (Path.leaf p) := by
  have hkind := (isSource_iff.mp h).1
  rw [← ofPath_leaf] at hkind
  refine ⟨?_, ?_, ?_⟩
  · rintro hleaf
    exact hkind (by rw [hleaf]; decide)
  · intro hleaf
    exact hkind (by rw [hleaf]; decide)
  · intro hleaf
    exact hkind (by rw [hleaf]; decide)

theorem isSource_leaf
    {p : Text} (h : Path.leaf p ≠ []) :
    isSource (Path.leaf p) = isSource p := by
  rw [isSource, isSource, ofPath_leaf, isMinified_leaf h]

/-- Whether a path names a source is said by its last segment. -/
theorem isSource_of_leaf_eq
    {p q : Text} (h : Path.leaf p = Path.leaf q) (hq : isSource q) :
    isSource p := by
  have hne := (isProper_leaf_of_isSource hq).1
  rw [← isSource_leaf (by rwa [h]), h, isSource_leaf hne]
  exact hq

theorem isMinified_target_leaf
    {p : Text} (h : isSource p) :
    isMinified (target (Path.leaf p)) := by
  refine isMinified_target ?_
  rw [Path.extension_leaf]
  exact extension_ne_nil_of_isSource h

theorem isProper_target_leaf
    {p : Text} (h : isSource p) :
    Path.IsProper (target (Path.leaf p)) := by
  have hminified := isMinified_target_leaf h
  refine ⟨target_ne_nil _, ?_, ?_⟩
  · intro htarget
    rw [htarget] at hminified
    exact absurd hminified (by decide)
  · intro htarget
    rw [htarget] at hminified
    exact absurd hminified (by decide)

/-- Different paths have different targets.  The target of a stylesheet or
script stands in the same directory and is one too, but it is no source. -/
theorem target_injective_and_beside :
    Function.Injective target ∧
      ∀ p, Kind.ofPath p ≠ .unknown →
        Path.lead (target p) = Path.lead p ∧
        Kind.ofPath (target p) = Kind.ofPath p ∧
        isMinified (target p) = true ∧
        isSource (target p) = false := by
  refine ⟨target_injective, ?_⟩
  intro p hkind
  have hextension := extension_ne_nil_of_ofPath hkind
  have hminified := isMinified_target hextension
  refine ⟨lead_target p, ?_, hminified, ?_⟩
  · rw [Kind.ofPath, Kind.ofPath, extension_target hextension]
  · simp [isSource, hminified]

/-- The mark, a second dot and another case of the extension, below a directory
with a dot in its name. -/
theorem target_injective_and_beside_twice_marked :
    Kind.ofPath "a.b/.min..CSS" = .css ∧
      target "a.b/.min..CSS" = Text.ofString "a.b/.min..min.CSS" ∧
      Path.lead (target "a.b/.min..CSS") = Text.ofString "a.b/" ∧
      Kind.ofPath (target "a.b/.min..CSS") = .css ∧
      isMinified (target "a.b/.min..CSS") = true ∧
      isSource (target "a.b/.min..CSS") = false := by
  have hkind : Kind.ofPath "a.b/.min..CSS" = .css := by decide +kernel
  have hlead : Path.lead "a.b/.min..CSS" = Text.ofString "a.b/" := by
    decide +kernel
  obtain ⟨hbeside, hsame, hminified, hsource⟩ :=
    target_injective_and_beside.2 "a.b/.min..CSS" (by rw [hkind]; decide)
  exact ⟨hkind, by decide +kernel, hbeside.trans hlead, hsame.trans hkind,
    hminified, hsource⟩

end Asset

end AssetMinifier
