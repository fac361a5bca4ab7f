import AssetMinifier.Config.Environment
import AssetMinifier.Proofs.Text.Legible
import AssetMinifier.Proofs.Text.Split
import Mathlib.Data.List.Nodup

/-!
# Layers by key

What a layer holds at a key, after a value was put into it and after another
layer was laid over it.  As long as the keys of a layer are distinct, laying it
over another one settles every key for itself.
-/

namespace AssetMinifier

namespace Layer

/-- The keys of a layer. -/
def keys (layer : Layer) : List Text :=
  layer.map Prod.fst

theorem lookup_cons_of_ne
    {k key : Text} (h : k ≠ key) (v : Value) (layer : Layer) :
    List.lookup k ((key, v) :: layer) = layer.lookup k := by
  have hbeq : (k == key) = false := beq_eq_false_iff_ne.mpr h
  rw [List.lookup_cons, hbeq]

theorem lookup_eq_none_of_notMem
    {layer : Layer} {key : Text} (h : key ∉ layer.keys) :
    layer.lookup key = none := by
  rw [List.lookup_eq_none_iff]
  intro e he
  rw [bne_iff_ne]
  rintro rfl
  exact h (List.mem_map_of_mem he)

theorem mem_of_lookup
    {layer : Layer} {key : Text} {v : Value}
    (h : layer.lookup key = some v) :
    (key, v) ∈ layer := by
  obtain ⟨before, after, hlayer, -⟩ := List.lookup_eq_some_iff.mp h
  simp [hlayer]

theorem lookup_of_mem
    {layer : Layer} (hkeys : layer.keys.Nodup) {key : Text} {v : Value}
    (h : (key, v) ∈ layer) :
    layer.lookup key = some v := by
  induction layer with
  | nil => cases h
  | cons e layer ih =>
      obtain ⟨hkey, hlater⟩ := List.nodup_cons.mp hkeys
      rcases List.mem_cons.mp h with rfl | hmem
      · exact List.lookup_cons_self
      · obtain ⟨k, w⟩ := e
        have hne : key ≠ k := by
          rintro rfl
          exact hkey (List.mem_map.mpr ⟨(key, v), hmem, rfl⟩)
        rw [lookup_cons_of_ne hne]
        exact ih hlater hmem

theorem lookup_put
    (key k : Text) (v : Value) (layer : Layer) :
    (put key v layer).lookup k =
      if k = key then some v else layer.lookup k := by
  induction layer with
  | nil =>
      rw [put]
      split
      · rename_i hk
        rw [hk, List.lookup_cons_self]
      · rename_i hk
        rw [lookup_cons_of_ne hk]
  | cons e layer ih =>
      obtain ⟨l, w⟩ := e
      rw [put]
      by_cases hl : l = key
      · subst hl
        rw [if_pos rfl]
        split
        · rename_i hk
          rw [hk, List.lookup_cons_self]
        · rename_i hk
          rw [lookup_cons_of_ne hk, lookup_cons_of_ne hk]
      · rw [if_neg hl]
        by_cases hk : k = l
        · rw [hk, if_neg hl, List.lookup_cons_self, List.lookup_cons_self]
        · rw [lookup_cons_of_ne hk, lookup_cons_of_ne hk, ih]

theorem keys_cons
    (key : Text) (v : Value) (layer : Layer) :
    keys ((key, v) :: layer) = key :: layer.keys :=
  rfl

theorem keys_put
    (key : Text) (v : Value) (layer : Layer) :
    (put key v layer).keys =
      if key ∈ layer.keys then layer.keys else layer.keys ++ [key] := by
  induction layer with
  | nil => rfl
  | cons e layer ih =>
      obtain ⟨l, w⟩ := e
      rw [put]
      by_cases hl : l = key
      · subst hl
        simp [keys_cons]
      · have hmem : key ∈ keys ((l, w) :: layer) ↔ key ∈ keys layer := by
          rw [keys_cons, List.mem_cons]
          exact or_iff_right fun h => hl h.symm
        rw [if_neg hl, keys_cons, ih]
        by_cases hkey : key ∈ keys layer
        · rw [if_pos hkey, if_pos (hmem.mpr hkey), keys_cons]
        · rw [if_neg hkey, if_neg (mt hmem.mp hkey), keys_cons, List.cons_append]

theorem nodup_keys_put
    {layer : Layer} (h : layer.keys.Nodup) (key : Text) (v : Value) :
    (put key v layer).keys.Nodup := by
  rw [keys_put]
  split
  · exact h
  · rename_i hkey
    rw [← List.concat_eq_append]
    exact List.Nodup.concat hkey h

/-! ## One layer over another -/

/-- Whether a value is a table. -/
def isTable : Value → Bool
  | .map _ => true
  | _ => false

theorem overlay_of_not_isTable
    {v w : Value} (h : isTable v = false ∨ isTable w = false) :
    overlay v w = v := by
  rw [overlay]
  intro upper lower hv hw
  subst hv hw
  rcases h with h | h
  · cases h
  · cases h

theorem merge_cons
    {key : Text} {v : Value} {lower : Layer}
    (h : ∀ w, lower.lookup key = some w →
      isTable v = false ∨ isTable w = false) (upper : Layer) :
    merge ((key, v) :: upper) lower = merge upper (put key v lower) := by
  rw [merge]
  cases hlower : lower.lookup key with
  | none => rfl
  | some w =>
      change merge upper (put key (overlay v w) lower) = _
      rw [overlay_of_not_isTable (h w hlower)]

/-- Where not both layers hold a table, the upper one decides. -/
theorem lookup_merge
    {upper : Layer} (hkeys : upper.keys.Nodup) (lower : Layer) {key : Text}
    (hvalue : ∀ v w, upper.lookup key = some v → lower.lookup key = some w →
      isTable v = false ∨ isTable w = false) :
    (merge upper lower).lookup key =
      (upper.lookup key).or (lower.lookup key) := by
  induction upper generalizing lower with
  | nil =>
      rw [merge]
      rfl
  | cons e upper ih =>
      obtain ⟨k, v⟩ := e
      obtain ⟨hk, hlater⟩ := List.nodup_cons.mp hkeys
      by_cases hkey : key = k
      · -- The key does not occur again, so what is put there now stays.
        subst hkey
        have hnone : upper.lookup key = none := lookup_eq_none_of_notMem hk
        have hself : List.lookup key ((key, v) :: upper) = some v :=
          List.lookup_cons_self
        rw [merge_cons fun w hw => hvalue v w hself hw, hself,
          ih hlater _ (by simp [hnone]), hnone, lookup_put, if_pos rfl]
        rfl
      · rw [lookup_cons_of_ne hkey] at hvalue ⊢
        -- Whatever is put at the other key, this one is not touched.
        have hput : ∀ u, (put k u lower).lookup key = lower.lookup key := by
          intro u
          rw [lookup_put, if_neg hkey]
        rw [merge, ih hlater, hput]
        rw [hput]
        exact hvalue

theorem nodup_keys_merge
    {lower : Layer} (h : lower.keys.Nodup) (upper : Layer) :
    (merge upper lower).keys.Nodup := by
  induction upper generalizing lower with
  | nil =>
      rw [merge]
      exact h
  | cons e upper ih =>
      obtain ⟨k, v⟩ := e
      rw [merge]
      exact ih (nodup_keys_put h k _)

end Layer

/-! ## Variables without a dot in their names -/

theorem toLower_eq_dot
    {c : Char} (h : c.toLower = '.') :
    c = '.' := by
  by_cases hupper : 'A'.val ≤ c.val ∧ c.val ≤ 'Z'.val
  · have hlow : (65 : UInt32) ≤ c.val := hupper.1
    have hlower : c.toLower.val = c.val + 32 :=
      congrArg Char.val (dif_pos hupper)
    have hval : c.val + 32 = 46 := by
      rw [← hlower, h]
      rfl
    grind
  · have hself : c.toLower = c := dif_neg hupper
    rw [← hself]
    exact h

theorem lowerChar_eq_dot
    {c : Char} (h : lowerChar c = '.') :
    c = '.' := by
  rw [lowerChar] at h
  split at h
  · cases h
  · split at h
    · cases h
    · exact toLower_eq_dot h

namespace Environment

/-- A dot is no lower-case form of anything else. -/
theorem separator_notMem_lower
    {t : Text} (h : separator ∉ t) :
    separator ∉ t.lower := by
  intro hmem
  have hdot : String.utf8EncodeChar '.' = [separator] := by decide
  refine h ?_
  rw [← Text.ofRunes_runes t, Text.ofRunes, List.mem_flatMap]
  rw [Text.lower, Text.mapRunes, Text.ofRunes, List.mem_flatMap] at hmem
  obtain ⟨lowered, hlowered, hbytes⟩ := hmem
  obtain ⟨r, hr, rfl⟩ := List.mem_map.mp hlowered
  refine ⟨r, hr, ?_⟩
  cases r with
  | stray b => exact hbytes
  | char c =>
      have hc := (Text.mem_utf8EncodeChar_iff_of_singleton hdot).mp hbytes
      exact (Text.mem_utf8EncodeChar_iff_of_singleton hdot).mpr
        (lowerChar_eq_dot hc)

theorem exists_of_key?
    {name key : Text} (h : key? name = some key) :
    ∃ rest, name = lead ++ rest ∧ key = rest.lower := by
  rw [key?] at h
  split at h
  · cases h
  · rename_i rest _ hrest
    rw [Text.dropLead?] at hrest
    split at hrest
    · rename_i hlead
      obtain ⟨tail, rfl⟩ := List.isPrefixOf_iff_prefix.mp hlead
      rw [List.drop_left] at hrest
      cases hrest
      cases h
      exact ⟨_, rfl, rfl⟩
    · cases hrest
  · cases h

/-- The settings of an environment, one for each variable that gives one. -/
def entries (env : Environment) : Layer :=
  env.filterMap fun p => (key? p.1).map fun key => (key, .text p.2)

theorem not_isTable_of_lookup_entries
    {env : Environment} {key : Text} {v : Value}
    (h : env.entries.lookup key = some v) :
    Layer.isTable v = false := by
  obtain ⟨p, -, hp⟩ := List.mem_filterMap.mp (Layer.mem_of_lookup h)
  obtain ⟨k, -, hk⟩ := Option.map_eq_some_iff.mp hp
  cases hk
  rfl

/-- No variable leads into a table. -/
def IsFlat (env : Environment) : Prop :=
  ∀ p ∈ env, lead <+: p.1 → separator ∉ p.1

theorem separator_notMem_of_key?
    {env : Environment} (h : env.IsFlat) {p : Text × Text} (hp : p ∈ env)
    {key : Text} (hkey : key? p.1 = some key) :
    separator ∉ key := by
  obtain ⟨rest, hname, rfl⟩ := exists_of_key? hkey
  have hflat := h p hp (hname ▸ List.prefix_append lead rest)
  rw [hname, List.mem_append, not_or] at hflat
  exact separator_notMem_lower hflat.2

/-- Such variables are put into the layer one after the other. -/
theorem layer_eq_merge
    {env : Environment} (h : env.IsFlat) :
    env.layer = Layer.merge env.entries [] := by
  rw [layer]
  generalize ([] : Layer) = lower
  induction env generalizing lower with
  | nil =>
      rw [entries, List.filterMap_nil, Layer.merge, List.foldl_nil]
  | cons p env ih =>
      have hlater : IsFlat env := fun q hq => h q (List.mem_cons_of_mem p hq)
      rw [List.foldl_cons, ih hlater]
      cases hkey : key? p.1 with
      | none =>
          have hentries : entries (p :: env) = entries env := by
            simp [entries, hkey]
          simp only [hentries, hkey]
      | some key =>
          have hentries : entries (p :: env) = (key, .text p.2) :: entries env := by
            simp [entries, hkey]
          have hsplit := Text.splitOn_of_notMem
            (separator_notMem_of_key? h List.mem_cons_self hkey)
          rw [hentries, Layer.merge_cons fun w _ => Or.inl rfl]
          simp only [hkey, hsplit, putAt]

theorem lookup_layer
    {env : Environment} (hflat : env.IsFlat) (hkeys : env.entries.keys.Nodup)
    (key : Text) :
    env.layer.lookup key = env.entries.lookup key := by
  rw [layer_eq_merge hflat, Layer.lookup_merge hkeys []]
  · exact Option.or_none
  · intro v w _ hw
    cases hw

theorem nodup_keys_layer
    {env : Environment} (h : env.IsFlat) :
    env.layer.keys.Nodup := by
  rw [layer_eq_merge h]
  have hnil : (Layer.keys []).Nodup := List.nodup_nil
  exact Layer.nodup_keys_merge hnil _

end Environment

end AssetMinifier
