import AssetMinifier.Minify.Comment
import AssetMinifier.Proofs.Layout.Basic
import AssetMinifier.Proofs.Text.Legible

/-!
# Comments that are removed

`WithoutBlocks` describes the removal of block comments by the comments
themselves: from the first opening to the first end behind it, and so on in
what follows, until no complete comment is left.  The scan over bytes computes
exactly this.  Each comment takes slashes away with it, so a text loses nothing
if and only if it keeps its slashes.
-/

namespace AssetMinifier.Comment

/-- A text has a complete block comment: an opening, and an end somewhere
behind it. -/
def HasBlock (t : Text) : Prop :=
  ∃ before body after,
    t = before ++ slash :: star :: (body ++ star :: slash :: after)

/-- `WithoutBlocks s t` says that `t` is `s` without its block comments. -/
inductive WithoutBlocks : Text → Text → Prop where
  /-- A text without a complete comment stays. -/
  | keep {t : Text} (h : ¬HasBlock t) : WithoutBlocks t t
  /-- The first comment goes, from its opening to the first end behind it. -/
  | cut {before body after rest : Text}
      (hbefore : ¬[slash, star] <:+: before)
      (hbody : ¬[star, slash] <:+: body)
      (hafter : WithoutBlocks after rest) :
      WithoutBlocks
        (before ++ slash :: star :: (body ++ star :: slash :: after))
        (before ++ rest)

/-! ## The end of a comment -/

theorem pair_infix_cons
    {x y b : UInt8} {t : Text} :
    [x, y] <:+: b :: t ↔ (b = x ∧ t.head? = some y) ∨ [x, y] <:+: t := by
  rw [List.infix_cons_iff, List.cons_prefix_cons]
  have hhead : [y] <+: t ↔ t.head? = some y := by
    cases t with
    | nil => simp
    | cons c t => simp [List.cons_prefix_cons, eq_comm]
  rw [hhead, eq_comm]

theorem pair_infix_append
    {x y : UInt8} {s t : Text} :
    [x, y] <:+: s ++ t ↔
      [x, y] <:+: s ∨ [x, y] <:+: t ∨
        s.getLast? = some x ∧ t.head? = some y := by
  induction s with
  | nil => simp
  | cons b s ih =>
      rw [List.cons_append, pair_infix_cons, pair_infix_cons, ih]
      cases s with
      | nil =>
          simp only [List.nil_append, List.head?_nil, List.infix_nil,
            List.getLast?_singleton, List.getLast?_nil, Option.some.injEq]
          tauto
      | cons c s =>
          rw [List.getLast?_cons_cons, List.cons_append, List.head?_cons,
            List.head?_cons]
          tauto

theorem closeLength?_eq_some
    {body : Text} (hbody : ¬[star, slash] <:+: body) (after : Text) :
    closeLength? (body ++ star :: slash :: after) =
      some (body.length + 2) := by
  induction body with
  | nil => rfl
  | cons b body ih =>
      rw [pair_infix_cons, not_or] at hbody
      have hnot : ¬(b = star ∧
          (body ++ star :: slash :: after).head? = some slash) := by
        rintro ⟨hb, hhead⟩
        cases body with
        | nil => exact absurd (Option.some.inj hhead) (by decide)
        | cons c body => exact hbody.1 ⟨hb, hhead⟩
      rw [List.cons_append, closeLength?, ih hbody.2, List.length_cons]
      simp only [Bool.and_eq_true, decide_eq_true_eq, if_neg hnot]
      rfl

theorem exists_of_closeLength?_eq_some
    {t : Text} {n : Nat} (h : closeLength? t = some n) :
    ∃ body after, t = body ++ star :: slash :: after ∧
      ¬[star, slash] <:+: body ∧ n = body.length + 2 := by
  induction t generalizing n with
  | nil => simp [closeLength?] at h
  | cons b t ih =>
      rw [closeLength?] at h
      by_cases hclose : b = star ∧ t.head? = some slash
      · simp only [Bool.and_eq_true, decide_eq_true_eq, if_pos hclose] at h
        obtain ⟨rfl, hhead⟩ := hclose
        cases t with
        | nil => simp at hhead
        | cons c t =>
            obtain rfl : c = slash := by simpa using hhead
            exact ⟨[], t, rfl, by simp, (Option.some.inj h).symm⟩
      · simp only [Bool.and_eq_true, decide_eq_true_eq, if_neg hclose,
          Option.map_eq_some_iff] at h
        obtain ⟨m, hm, rfl⟩ := h
        obtain ⟨body, after, rfl, hbody, rfl⟩ := ih hm
        refine ⟨b :: body, after, rfl, ?_, by simp⟩
        rw [pair_infix_cons, not_or]
        refine ⟨?_, hbody⟩
        rintro ⟨hb, hhead⟩
        cases body with
        | nil => simp at hhead
        | cons c body => exact hclose ⟨hb, hhead⟩

theorem closeLength?_isSome
    (body after : Text) :
    (closeLength? (body ++ star :: slash :: after)).isSome := by
  induction body with
  | nil => rfl
  | cons b body ih =>
      rw [List.cons_append, closeLength?]
      by_cases hclose : b = star ∧
          (body ++ star :: slash :: after).head? = some slash
      · simp [hclose]
      · simp only [Bool.and_eq_true, decide_eq_true_eq, if_neg hclose]
        simpa using ih

/-! ## The scan -/

theorem stripBlocksFrom_length_append
    (u t : Text) :
    stripBlocksFrom u.length (u ++ t) = stripBlocks t := by
  induction u with
  | nil => rfl
  | cons b u ih => simpa [stripBlocksFrom] using ih

/-- A comment at the front is passed over. -/
theorem stripBlocks_block
    {body : Text} (hbody : ¬[star, slash] <:+: body) (after : Text) :
    stripBlocks (slash :: star :: (body ++ star :: slash :: after)) =
      stripBlocks after := by
  have hblock :
      blockLength? (slash :: star :: (body ++ star :: slash :: after)) =
        some (body.length + 4) := by
    simp [blockLength?, closeLength?_eq_some hbody]
  have hskip := stripBlocksFrom_length_append
    (star :: (body ++ [star, slash])) after
  rw [stripBlocks, stripBlocksFrom, hblock, ← hskip]
  simp

theorem stripBlocks_cons
    {b : UInt8} {t : Text} (h : blockLength? (b :: t) = none) :
    stripBlocks (b :: t) = b :: stripBlocks t := by
  rw [stripBlocks, stripBlocksFrom, h]
  rfl

theorem stripBlocks_append_of_notMem
    {s : Text} (h : slash ∉ s) (t : Text) :
    stripBlocks (s ++ t) = s ++ stripBlocks t := by
  induction s with
  | nil => rfl
  | cons b s ih =>
      have hb : b ≠ slash := fun hb => h (hb ▸ List.mem_cons_self)
      have hnone : blockLength? (b :: (s ++ t)) = none := by
        cases s ++ t with
        | nil => rfl
        | cons c u => simp [blockLength?, hb]
      rw [List.cons_append, stripBlocks_cons hnone,
        ih fun hmem => h (List.mem_cons_of_mem b hmem), List.cons_append]

theorem exists_of_blockLength?_eq_some
    {t : Text} {n : Nat} (h : blockLength? t = some n) :
    ∃ body after, t = slash :: star :: (body ++ star :: slash :: after) ∧
      ¬[star, slash] <:+: body := by
  match t with
  | [] => simp [blockLength?] at h
  | [b] => simp [blockLength?] at h
  | b :: c :: t =>
      rw [blockLength?] at h
      by_cases hopen : b = slash ∧ c = star
      · obtain ⟨rfl, rfl⟩ := hopen
        simp only [decide_true, Bool.and_self, if_true,
          Option.map_eq_some_iff] at h
        obtain ⟨m, hm, -⟩ := h
        obtain ⟨body, after, rfl, hbody, -⟩ :=
          exists_of_closeLength?_eq_some hm
        exact ⟨body, after, rfl, hbody⟩
      · simp [hopen] at h

theorem blockLength?_ne_none
    (body after : Text) :
    blockLength? (slash :: star :: (body ++ star :: slash :: after)) ≠
      none := by
  have hclose := closeLength?_isSome body after
  rw [blockLength?]
  simpa [Option.isSome_iff_ne_none] using hclose

theorem hasBlock_cons_iff
    {b : UInt8} {t : Text} :
    HasBlock (b :: t) ↔ blockLength? (b :: t) ≠ none ∨ HasBlock t := by
  constructor
  · rintro ⟨before, body, after, h⟩
    cases before with
    | nil =>
        left
        rw [h]
        exact blockLength?_ne_none body after
    | cons c before =>
        right
        exact ⟨before, body, after, (List.cons.inj h).2⟩
  · rintro (h | ⟨before, body, after, rfl⟩)
    · obtain ⟨n, hn⟩ := Option.ne_none_iff_exists'.mp h
      obtain ⟨body, after, heq, -⟩ := exists_of_blockLength?_eq_some hn
      exact ⟨[], body, after, heq⟩
    · exact ⟨b :: before, body, after, rfl⟩

theorem not_hasBlock_nil : ¬HasBlock [] := by
  rintro ⟨before, body, after, h⟩
  simp at h

theorem stripBlocks_of_not_hasBlock
    {t : Text} (h : ¬HasBlock t) :
    stripBlocks t = t := by
  induction t with
  | nil => rfl
  | cons b t ih =>
      rw [hasBlock_cons_iff, not_or, not_not] at h
      rw [stripBlocks_cons h.1, ih h.2]

theorem stripBlocks_append_block
    {before body : Text} (hbefore : ¬[slash, star] <:+: before)
    (hbody : ¬[star, slash] <:+: body) (after : Text) :
    stripBlocks
        (before ++ slash :: star :: (body ++ star :: slash :: after)) =
      before ++ stripBlocks after := by
  induction before with
  | nil => exact stripBlocks_block hbody after
  | cons b before ih =>
      rw [pair_infix_cons, not_or] at hbefore
      rw [List.cons_append, stripBlocks_cons, ih hbefore.2,
        List.cons_append]
      -- An opening at `b` would stand in `before`.
      rw [← Option.not_isSome_iff_eq_none, Option.isSome_iff_exists]
      rintro ⟨n, hn⟩
      obtain ⟨body', after', heq, -⟩ := exists_of_blockLength?_eq_some hn
      obtain ⟨hb, hrest⟩ := List.cons.inj heq
      cases before with
      | nil => exact absurd (List.cons.inj hrest).1 (by decide)
      | cons c before =>
          exact hbefore.1 ⟨hb, congrArg some (List.cons.inj hrest).1⟩

/-! ## What is left -/

theorem WithoutBlocks.cons
    {b : UInt8} {s t : Text} (h : WithoutBlocks s t)
    (hnone : blockLength? (b :: s) = none) :
    WithoutBlocks (b :: s) (b :: t) := by
  cases h with
  | keep h =>
      apply WithoutBlocks.keep
      rw [hasBlock_cons_iff, not_or, not_not]
      exact ⟨hnone, h⟩
  | @cut before body after rest hbefore hbody hafter =>
      refine @WithoutBlocks.cut (b :: before) body after rest ?_ hbody hafter
      rw [pair_infix_cons, not_or]
      refine ⟨?_, hbefore⟩
      rintro ⟨rfl, hhead⟩
      cases before with
      | nil => simp at hhead
      | cons c before =>
          obtain rfl : c = star := by simpa using hhead
          -- The opening would have the end of the later comment behind it.
          apply blockLength?_ne_none
            (before ++ slash :: star :: body) after
          rw [← hnone]
          simp

theorem withoutBlocks_stripBlocks
    (s : Text) :
    WithoutBlocks s (stripBlocks s) := by
  match s with
  | [] => exact WithoutBlocks.keep not_hasBlock_nil
  | b :: t =>
      cases h : blockLength? (b :: t) with
      | none =>
          rw [stripBlocks_cons h]
          exact (withoutBlocks_stripBlocks t).cons h
      | some n =>
          obtain ⟨body, after, heq, hbody⟩ :=
            exists_of_blockLength?_eq_some h
          have hshorter : after.length < (b :: t).length := by
            rw [heq, List.length_cons, List.length_cons, List.length_append,
              List.length_cons, List.length_cons]
            omega
          have hafter := withoutBlocks_stripBlocks after
          rw [heq, stripBlocks_block hbody]
          exact @WithoutBlocks.cut [] body after _ (by simp) hbody hafter
termination_by s.length
decreasing_by
  · exact Nat.lt_succ_self t.length
  · exact hshorter

/-- The scan computes the text without its block comments. -/
theorem withoutBlocks_iff
    {s t : Text} :
    WithoutBlocks s t ↔ t = stripBlocks s := by
  constructor
  · intro h
    induction h with
    | keep h => rw [stripBlocks_of_not_hasBlock h]
    | cut hbefore hbody hafter ih =>
        rw [stripBlocks_append_block hbefore hbody, ih]
  · rintro rfl
    exact withoutBlocks_stripBlocks s

/-! ## Slashes of block comments -/

theorem WithoutBlocks.count_slash_le
    {s t : Text} (h : WithoutBlocks s t) :
    t.count slash ≤ s.count slash := by
  induction h with
  | keep h => exact Nat.le_refl _
  | cut hbefore hbody hafter ih =>
      rw [List.count_append, List.count_append, List.count_cons_self,
        List.count_cons, List.count_append, List.count_cons,
        List.count_cons_self]
      omega

/-- A comment has one slash at each end. -/
theorem WithoutBlocks.count_slash_add_two_le
    {s t : Text} (h : WithoutBlocks s t) (hblock : HasBlock s) :
    t.count slash + 2 ≤ s.count slash := by
  cases h with
  | keep h => exact absurd hblock h
  | cut hbefore hbody hafter =>
      have hle := hafter.count_slash_le
      rw [List.count_append, List.count_append, List.count_cons_self,
        List.count_cons, List.count_append, List.count_cons,
        List.count_cons_self]
      omega

theorem WithoutBlocks.count_slash_lt
    {s t : Text} (h : WithoutBlocks s t) (hblock : HasBlock s) :
    t.count slash < s.count slash := by
  have hle := h.count_slash_add_two_le hblock
  omega

/-! ## Slashes of line comments -/

theorem count_slash_stripLinesFrom_le
    (inside : Bool) (prev : Option UInt8) (t : Text) :
    (stripLinesFrom inside prev t).count slash ≤ t.count slash := by
  induction t generalizing inside prev with
  | nil =>
      cases inside with
      | false => exact Nat.le_refl _
      | true => exact Nat.le_refl _
  | cons b t ih =>
      rw [List.count_cons]
      cases inside with
      | false =>
          rw [stripLinesFrom]
          by_cases hstart : startsLine prev b t
          · rw [if_pos hstart]
            exact Nat.le_add_right_of_le (ih true (some b))
          · rw [if_neg hstart, List.count_cons]
            exact Nat.add_le_add_right (ih false (some b)) _
      | true =>
          rw [stripLinesFrom]
          by_cases hline : b = newline
          · rw [if_pos hline, List.count_cons]
            exact Nat.add_le_add_right (ih false (some b)) _
          · rw [if_neg hline]
            exact Nat.le_add_right_of_le (ih true (some b))

/-- A text that loses a line comment loses two slashes. -/
theorem stripLinesFrom_eq_self_or_count_slash_le
    (prev : Option UInt8) (t : Text) :
    stripLinesFrom false prev t = t ∨
      (stripLinesFrom false prev t).count slash + 2 ≤ t.count slash := by
  induction t generalizing prev with
  | nil => exact Or.inl rfl
  | cons b t ih =>
      rw [stripLinesFrom]
      by_cases hstart : startsLine prev b t
      · right
        obtain ⟨⟨rfl, hhead⟩, -⟩ :
            (b = slash ∧ t.head? = some slash) ∧ prev ≠ some colon := by
          simpa [startsLine] using hstart
        obtain ⟨rest, rfl⟩ := List.head?_eq_some_iff.mp hhead
        have hne : slash ≠ newline := by decide
        have hle := count_slash_stripLinesFrom_le true (some slash) rest
        rw [if_pos hstart, stripLinesFrom, if_neg hne, List.count_cons_self,
          List.count_cons_self]
        omega
      · rw [if_neg hstart, List.count_cons, List.count_cons]
        rcases ih (some b) with h | h
        · exact Or.inl (congrArg (b :: ·) h)
        · exact Or.inr (by omega)

theorem stripBlocks_stripLines_eq_self
    {t : Text} (hlines : stripLines t = t) (hblock : ¬HasBlock t) :
    stripBlocks (stripLines t) = t := by
  rw [hlines, stripBlocks_of_not_hasBlock hblock]

/-- A text that has a comment to lose loses two slashes with it. -/
theorem no_comment_or_count_slash_le
    (t : Text) :
    (stripLines t = t ∧ ¬HasBlock t) ∨
      (stripBlocks (stripLines t)).count slash + 2 ≤ t.count slash := by
  have hblocks := (withoutBlocks_stripBlocks (stripLines t)).count_slash_le
  rcases stripLinesFrom_eq_self_or_count_slash_le none t with heq | hle
  · have hlines : stripLines t = t := heq
    by_cases hblock : HasBlock t
    · right
      rw [hlines]
      exact (withoutBlocks_stripBlocks t).count_slash_add_two_le hblock
    · exact Or.inl ⟨hlines, hblock⟩
  · have hlines : (stripLines t).count slash + 2 ≤ t.count slash := hle
    exact Or.inr (by omega)

/-- A text keeps its slashes if and only if it has no comment to lose. -/
theorem count_slash_stripBlocks_stripLines_eq_iff
    {t : Text} :
    (stripBlocks (stripLines t)).count slash = t.count slash ↔
      stripLines t = t ∧ ¬HasBlock t := by
  constructor
  · intro h
    rcases no_comment_or_count_slash_le t with hnone | hle
    · exact hnone
    · omega
  · rintro ⟨hlines, hblock⟩
    rw [stripBlocks_stripLines_eq_self hlines hblock]

/-! ## Slashes of runes -/

theorem slash_mem_bytes_iff
    {c : Char} :
    slash ∈ (Rune.char c).bytes ↔ c = '/' :=
  Text.mem_utf8EncodeChar_iff_of_singleton rfl

/-- White space has no slashes. -/
theorem count_slash_filter_isSolid
    (rs : List Rune) :
    (Text.ofRunes (rs.filter Rune.isSolid)).count slash =
      (Text.ofRunes rs).count slash := by
  induction rs with
  | nil => rfl
  | cons r rs ih =>
      have hcons : Text.ofRunes (r :: rs) = r.bytes ++ Text.ofRunes rs := rfl
      by_cases hr : r.isSolid
      · have hfilter : Text.ofRunes (r :: rs.filter Rune.isSolid) =
            r.bytes ++ Text.ofRunes (rs.filter Rune.isSolid) := rfl
        rw [List.filter_cons_of_pos hr, hfilter, hcons, List.count_append,
          List.count_append, ih]
      · have hbytes : slash ∉ r.bytes := by
          cases r with
          | stray b => exact absurd rfl hr
          | char c =>
              rw [slash_mem_bytes_iff]
              rintro rfl
              exact hr (by decide)
        rw [List.filter_cons_of_neg hr, hcons, List.count_append,
          List.count_eq_zero_of_not_mem hbytes, Nat.zero_add, ih]

end AssetMinifier.Comment
