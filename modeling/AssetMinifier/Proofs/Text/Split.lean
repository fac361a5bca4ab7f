import AssetMinifier.Text.Basic

/-!
# Splitting and joining texts

A text is split at every occurrence of a byte, and the parts joined with that
byte are the text again.
-/

namespace AssetMinifier

namespace Text

theorem splitOn_ne_nil
    (sep : UInt8) (t : Text) :
    splitOn sep t ≠ [] := by
  cases t with
  | nil => simp [splitOn]
  | cons b t =>
      rw [splitOn]
      split
      · simp
      · split <;> simp

theorem splitOn_append_separator
    (sep : UInt8) (s t : Text) :
    splitOn sep (s ++ sep :: t) = splitOn sep s ++ splitOn sep t := by
  induction s with
  | nil => simp [splitOn]
  | cons b s ih =>
      by_cases hb : b = sep
      · simp [splitOn, hb, ih]
      · obtain ⟨part, parts, hparts⟩ :=
          List.exists_cons_of_ne_nil (splitOn_ne_nil sep s)
        simp [splitOn, hb, ih, hparts]

theorem splitOn_of_notMem
    {sep : UInt8} {t : Text} (h : sep ∉ t) :
    splitOn sep t = [t] := by
  induction t with
  | nil => rfl
  | cons b t ih =>
      have hb : b ≠ sep := fun hb => h (hb ▸ List.mem_cons_self)
      have ht : sep ∉ t := fun ht => h (List.mem_cons_of_mem b ht)
      simp [splitOn, hb, ih ht]

theorem splitOn_cons_of_ne
    {sep b : UInt8} (h : b ≠ sep) (t : Text) :
    ∃ part parts, splitOn sep t = part :: parts ∧
      splitOn sep (b :: t) = (b :: part) :: parts := by
  obtain ⟨part, parts, hparts⟩ :=
    List.exists_cons_of_ne_nil (splitOn_ne_nil sep t)
  exact ⟨part, parts, hparts, by simp [splitOn, h, hparts]⟩

theorem notMem_of_mem_splitOn
    {sep : UInt8} {t part : Text} (h : part ∈ splitOn sep t) :
    sep ∉ part := by
  induction t generalizing part with
  | nil =>
      rw [List.mem_singleton.mp h]
      exact List.not_mem_nil
  | cons b t ih =>
      by_cases hb : b = sep
      · have hsplit : part ∈ [] :: splitOn sep t := by
          simpa [splitOn, hb] using h
        rcases List.mem_cons.mp hsplit with rfl | hpart
        · exact List.not_mem_nil
        · exact ih hpart
      · obtain ⟨first, parts, hparts, hsplit⟩ := splitOn_cons_of_ne hb t
        rw [hparts] at ih
        rw [hsplit] at h
        rcases List.mem_cons.mp h with rfl | hpart
        · rw [List.mem_cons, not_or]
          exact ⟨Ne.symm hb, ih List.mem_cons_self⟩
        · exact ih (List.mem_cons_of_mem _ hpart)

theorem length_splitOn
    (sep : UInt8) (t : Text) :
    (splitOn sep t).length = t.count sep + 1 := by
  induction t with
  | nil => rfl
  | cons b t ih =>
      by_cases hb : b = sep
      · simp [splitOn, hb, ih]
      · obtain ⟨part, parts, hparts, hsplit⟩ := splitOn_cons_of_ne hb t
        rw [hsplit, List.count_cons_of_ne hb, ← ih, hparts]
        rfl

theorem join_cons
    (sep first : Text) {parts : List Text} (h : parts ≠ []) :
    join sep (first :: parts) = first ++ sep ++ join sep parts := by
  cases parts with
  | nil => exact absurd rfl h
  | cons second parts => rfl

theorem join_concat
    (sep part : Text) (parts : List Text) :
    join sep (parts ++ [part]) = part ∨
      ∃ s, join sep (parts ++ [part]) = s ++ sep ++ part := by
  induction parts with
  | nil => exact Or.inl rfl
  | cons first parts ih =>
      have hne : parts ++ [part] ≠ [] := by simp
      have hcons := join_cons sep first hne
      rcases ih with hlast | ⟨s, hs⟩
      · exact Or.inr ⟨first, by rw [List.cons_append, hcons, hlast]⟩
      · refine Or.inr ⟨first ++ sep ++ s, ?_⟩
        rw [List.cons_append, hcons, hs]
        simp only [List.append_assoc]

/-- The parts of a text, joined, are the text. -/
theorem join_splitOn
    (sep : UInt8) (t : Text) :
    join [sep] (splitOn sep t) = t := by
  induction t with
  | nil => rfl
  | cons b t ih =>
      by_cases hb : b = sep
      · have hsplit : splitOn sep (b :: t) = [] :: splitOn sep t := by
          simp [splitOn, hb]
        rw [hsplit, join_cons _ _ (splitOn_ne_nil sep t), ih, hb]
        rfl
      · obtain ⟨part, parts, hparts, hsplit⟩ := splitOn_cons_of_ne hb t
        rw [hparts] at ih
        rw [hsplit, ← ih]
        cases parts with
        | nil => rfl
        | cons second parts => rfl

/-- Parts without the separator are found again in the joined text. -/
theorem splitOn_join
    {sep : UInt8} {parts : List Text} (hne : parts ≠ [])
    (h : ∀ part ∈ parts, sep ∉ part) :
    splitOn sep (join [sep] parts) = parts := by
  induction parts with
  | nil => exact absurd rfl hne
  | cons part parts ih =>
      have hpart := splitOn_of_notMem (h part List.mem_cons_self)
      by_cases hnil : parts = []
      · rw [hnil]
        exact hpart
      · have hrest := ih hnil
          fun other hmem => h other (List.mem_cons_of_mem part hmem)
        rw [join_cons _ _ hnil, List.append_assoc, List.singleton_append,
          splitOn_append_separator, hpart, hrest, List.singleton_append]

/-- An occurrence of a text without the separator lies on one side of it. -/
theorem infix_append_separator
    {sep : UInt8} {s t u : Text} (hsep : sep ∉ s)
    (h : s <:+: t ++ sep :: u) :
    s <:+: t ∨ s <:+: u := by
  obtain ⟨a, b, hab⟩ := h
  rw [List.append_assoc] at hab
  rcases List.append_eq_append_iff.mp hab with ⟨x, rfl, hx⟩ | ⟨x, rfl, hx⟩
  · left
    rcases List.append_eq_append_iff.mp hx with ⟨y, rfl, -⟩ | ⟨y, rfl, hy⟩
    · exact ⟨a, y, by simp⟩
    · cases y with
      | nil => exact ⟨a, [], by simp⟩
      | cons c y =>
          obtain ⟨rfl, -⟩ := List.cons.inj hy
          exact absurd (by simp) hsep
  · right
    cases x with
    | nil =>
        cases s with
        | nil => exact List.nil_infix
        | cons c s =>
            obtain ⟨rfl, -⟩ := List.cons.inj hx
            exact absurd List.mem_cons_self hsep
    | cons c x =>
        obtain ⟨-, rfl⟩ := List.cons.inj hx
        exact ⟨x, b, by simp⟩

theorem exists_mem_of_infix_join
    {sep : UInt8} {s : Text} {parts : List Text} (hsep : sep ∉ s)
    (hne : parts ≠ []) (h : s <:+: join [sep] parts) :
    ∃ part ∈ parts, s <:+: part := by
  induction parts with
  | nil => exact absurd rfl hne
  | cons part parts ih =>
      by_cases hnil : parts = []
      · rw [hnil] at h
        exact ⟨part, List.mem_cons_self, h⟩
      · rw [join_cons _ _ hnil, List.append_assoc, List.singleton_append] at h
        rcases infix_append_separator hsep h with hpart | hrest
        · exact ⟨part, List.mem_cons_self, hpart⟩
        · obtain ⟨other, hmem, hother⟩ := ih hnil hrest
          exact ⟨other, List.mem_cons_of_mem part hmem, hother⟩

theorem join_append
    (sep : Text) {parts more : List Text} (hparts : parts ≠ [])
    (hmore : more ≠ []) :
    join sep (parts ++ more) = join sep parts ++ (sep ++ join sep more) := by
  induction parts with
  | nil => exact absurd rfl hparts
  | cons part parts ih =>
      by_cases hnil : parts = []
      · subst hnil
        rw [List.singleton_append, join_cons _ _ hmore, List.append_assoc]
        rfl
      · rw [List.cons_append, join_cons _ _ (by simp [hnil]), ih hnil,
          join_cons _ _ hnil]
        simp only [List.append_assoc]

theorem infix_join_of_mem
    (sep : Text) {part : Text} {parts : List Text} (h : part ∈ parts) :
    part <:+: join sep parts := by
  induction parts with
  | nil => exact absurd h List.not_mem_nil
  | cons first parts ih =>
      by_cases hnil : parts = []
      · rw [hnil, List.mem_singleton] at h
        rw [h, hnil]
        exact List.infix_refl first
      · rw [join_cons _ _ hnil]
        rcases List.mem_cons.mp h with rfl | hmem
        · exact ⟨[], sep ++ join sep parts, by simp⟩
        · exact (ih hmem).trans (List.suffix_append _ _).isInfix

end Text

end AssetMinifier
