import AssetMinifier.Proofs.Config.Layer
import AssetMinifier.Yaml.Document

/-!
# The keys of a document

The keys of the table that a document holds are distinct texts, wherever its
pairs come from: a key that is written twice takes the place of the first, and
so does one that is brought in from elsewhere.
-/

namespace AssetMinifier.Yaml

namespace Decode

/-- Whatever a decoder yields satisfies a condition. -/
def Yields {α : Type} (m : Decode α) (p : α → Prop) : Prop :=
  ∀ σ a σ', m σ = some (a, σ') → p a

variable {α β : Type}

theorem yields_true
    (m : Decode α) :
    Yields m fun _ => True :=
  fun _ _ _ _ => trivial

theorem yields_failure
    (p : α → Prop) :
    Yields failure p := by
  intro σ a σ' h
  cases h

theorem yields_pure
    {a : α} {p : α → Prop} (h : p a) :
    Yields (pure a) p := by
  intro σ b σ' hb
  cases hb
  exact h

theorem Yields.bind
    {m : Decode α} {f : α → Decode β} {p : α → Prop} {q : β → Prop}
    (hm : Yields m p) (hf : ∀ a, p a → Yields (f a) q) :
    Yields (m >>= f) q := by
  intro σ b σ' h
  change (m σ).bind (fun r => f r.1 r.2) = some (b, σ') at h
  obtain ⟨⟨a, τ⟩, ha, hb⟩ := Option.bind_eq_some_iff.mp h
  exact hf a (hm σ a τ ha) τ b σ' hb

/-- A step whose outcome does not matter. -/
theorem yields_bind
    (m : Decode α) {f : α → Decode β} {q : β → Prop}
    (hf : ∀ a, Yields (f a) q) :
    Yields (m >>= f) q :=
  (yields_true m).bind fun a _ => hf a

theorem yields_foldlM
    {f : β → α → Decode β} {p : β → Prop}
    (hf : ∀ b a, p b → Yields (f b a) p) (items : List α) {b : β} (hb : p b) :
    Yields (items.foldlM f b) p := by
  induction items generalizing b with
  | nil => exact yields_pure hb
  | cons a items ih =>
      rw [List.foldlM_cons]
      exact (hf b a hb).bind fun c hc => ih hc

end Decode

namespace Table

/-- The keys of a table are distinct texts. -/
structure IsTextual (t : Table) : Prop where
  isText : ∀ e ∈ t.entries, ∃ name, e.1 = .text name
  nodup : t.layer.keys.Nodup

theorem isTextual_empty :
    IsTextual {} where
  isText := by simp
  nodup := List.nodup_nil

theorem keyName_text
    (name : Text) :
    keyName (.text name) = name :=
  rfl

theorem isSame_text
    (s t : Text) :
    isSame (.text s) (.text t) = decide (s = t) :=
  rfl

/-- Putting a value at a text is putting it at the name in the layer. -/
theorem layer_put
    {seen : Option (List Value)} {entries : List (Value × Value)}
    (h : ∀ e ∈ entries, ∃ name, e.1 = .text name) (key : Text) (v : Value) :
    layer ⟨seen, put (.text key) v entries⟩ =
      Layer.put key v (layer ⟨seen, entries⟩) := by
  simp only [layer]
  induction entries with
  | nil => rfl
  | cons e entries ih =>
      obtain ⟨k, w⟩ := e
      obtain ⟨name, rfl⟩ := h (k, w) List.mem_cons_self
      have hlater := ih fun e he => h e (List.mem_cons_of_mem _ he)
      by_cases hname : key = name
      · simp [put, isSame_text, keyName_text, Layer.put, hname]
      · have hkey : ¬name = key := fun h => hname h.symm
        simp [put, isSame_text, keyName_text, Layer.put, hname, hkey, hlater]

theorem exists_text_of_mem_put
    {entries : List (Value × Value)}
    (h : ∀ e ∈ entries, ∃ name, e.1 = .text name) (key : Text) (v : Value) :
    ∀ e ∈ put (.text key) v entries, ∃ name, e.1 = .text name := by
  induction entries with
  | nil => simp [put]
  | cons e entries ih =>
      have hlater := ih fun e he => h e (List.mem_cons_of_mem _ he)
      intro d hd
      rw [put] at hd
      split at hd
      · rcases List.mem_cons.mp hd with rfl | hd
        · exact h e List.mem_cons_self
        · exact h d (List.mem_cons_of_mem _ hd)
      · rcases List.mem_cons.mp hd with rfl | hd
        · exact h _ List.mem_cons_self
        · exact hlater d hd

theorem IsTextual.put
    {t : Table} (h : t.IsTextual) (seen : Option (List Value)) (key : Text)
    (v : Value) :
    IsTextual ⟨seen, Table.put (.text key) v t.entries⟩ where
  isText := exists_text_of_mem_put h.isText key v
  nodup := by
    rw [layer_put h.isText]
    exact Layer.nodup_keys_put h.nodup key v

theorem IsTextual.withSeen
    {t : Table} (h : t.IsTextual) (seen : Option (List Value)) :
    IsTextual { t with seen } :=
  ⟨h.isText, h.nodup⟩

end Table

namespace Decode

theorem yields_scalarKey
    (s : Scope) (n : Node) :
    Yields (scalarKey s n) fun key? =>
      ∀ key, key? = some key → ∃ name, key = .text name := by
  cases n with
  | scalar tag plain text =>
      rw [scalarKey]
      refine yields_bind _ fun _ => yields_bind _ fun v => ?_
      split
      · refine yields_pure ?_
        intro key hkey
        cases hkey
      · refine yields_pure ?_
        intro key hkey
        cases hkey
        exact ⟨_, rfl⟩
      · refine yields_pure ?_
        intro key hkey
        cases hkey
        exact ⟨_, rfl⟩
  | _ => exact yields_failure _

theorem yields_textKey
    (s : Scope) (n : Node) :
    Yields (textKey s n) fun key? =>
      ∀ key, key? = some key → ∃ name, key = .text name := by
  rw [textKey.eq_def]
  split
  · exact yields_bind _ fun _ => yields_bind _ fun r => yields_scalarKey r.1 r.2
  · exact yields_scalarKey s _

/-! ## Tables whose keys are texts -/

/-- A decoder that adds to a table leaves its keys distinct texts. -/
def KeepsTextual (f : Table → Decode Table) : Prop :=
  ∀ t, t.IsTextual → Yields (f t) Table.IsTextual

section Steps

variable {fuel : Nat}

theorem keepsTextual_table
    (hmerge : ∀ s source, KeepsTextual (merge fuel true s source))
    (s : Scope) (pairs : List (Node × Node)) :
    KeepsTextual (table (fuel + 1) true s pairs) := by
  intro t ht
  rw [table]
  split
  · exact yields_failure _
  · refine (yields_foldlM ?_ _ ht).bind ?_
    · -- The pairs of the mapping itself.
      intro t p ht
      rw [if_pos rfl]
      refine (yields_textKey s p.1).bind fun key? hkey => ?_
      dsimp only
      split
      · exact yields_pure ht
      · rename_i key
        obtain ⟨name, rfl⟩ := hkey key rfl
        split
        · exact yields_pure ht
        · split
          · exact yields_failure _
          · exact yields_bind _ fun v => yields_pure (ht.put _ name v)
    · -- The pairs that it brings in.
      intro t ht
      split
      · exact yields_pure ht
      · rename_i source _
        have hsource : ∀ seen : List Value,
            Yields (do
              let merged ← merge fuel true s source { t with seen := some seen }
              pure { merged with seen := t.seen.bind fun _ => merged.seen })
              Table.IsTextual := by
          intro seen
          refine (hmerge s source _ (ht.withSeen _)).bind fun merged hmerged => ?_
          exact yields_pure (hmerged.withSeen _)
        dsimp only
        split
        · exact yields_bind _ hsource
        · exact yields_bind _ hsource

theorem keepsTextual_merge
    (hmergeOne : ∀ s source, KeepsTextual (mergeOne fuel true s source))
    (s : Scope) (source : Node) :
    KeepsTextual (merge (fuel + 1) true s source) := by
  intro t ht
  unfold merge
  split
  · exact yields_foldlM (fun t n ht => hmergeOne s n t ht) _ ht
  · exact hmergeOne s source t ht

theorem keepsTextual_mergeOne
    (htable : ∀ s pairs, KeepsTextual (table fuel true s pairs))
    (s : Scope) (source : Node) :
    KeepsTextual (mergeOne (fuel + 1) true s source) := by
  intro t ht
  unfold mergeOne
  refine yields_bind _ fun _ => ?_
  split
  · exact htable s _ t ht
  · refine yields_bind _ fun r => yields_bind _ fun _ => ?_
    exact yields_bind _ fun pairs => htable r.1 pairs t ht
  · exact yields_failure _

end Steps

/-- The three decoders call each other with less fuel, so they are taken
together. -/
theorem keepsTextual
    (fuel : Nat) :
    (∀ s pairs, KeepsTextual (table fuel true s pairs)) ∧
      (∀ s source, KeepsTextual (merge fuel true s source)) ∧
      ∀ s source, KeepsTextual (mergeOne fuel true s source) := by
  induction fuel with
  | zero =>
      refine ⟨?_, ?_, ?_⟩
      · intro s pairs t _
        rw [table]
        exact yields_failure _
      · intro s source t _
        rw [merge]
        exact yields_failure _
      · intro s source t _
        rw [mergeOne]
        exact yields_failure _
  | succ fuel ih =>
      obtain ⟨htable, hmerge, hmergeOne⟩ := ih
      exact ⟨keepsTextual_table hmerge, keepsTextual_merge hmergeOne,
        keepsTextual_mergeOne htable⟩

end Decode

theorem Content.nodup_keys_table
    {c : Content} {layer : Layer} (h : c.table = .ok layer) :
    layer.keys.Nodup := by
  rw [Content.table] at h
  split at h
  · rename_i pairs _
    dsimp only at h
    split at h
    · rename_i t _ hrun
      cases h
      exact ((Decode.keepsTextual _).1 _ pairs {} Table.isTextual_empty _ t _
        hrun).nodup
    · cases h
  · split at h
    · cases h
    · cases h
      exact List.nodup_nil
    · cases h
  · cases h

theorem nodup_keys_table
    {t : Text} {layer : Layer} (h : table t = .ok layer) :
    layer.keys.Nodup := by
  rw [table] at h
  split at h
  · cases h
  · cases h
    exact List.nodup_nil
  · exact Content.nodup_keys_table h

end AssetMinifier.Yaml
