import AssetMinifier.Engine.Basic
import AssetMinifier.Proofs.Minify.Script
import AssetMinifier.Proofs.Minify.Stylesheet
import Mathlib.Logic.Function.Iterate

/-!
# Repeated minification

Minifying once may bring a new comment together, so a minified text can change
when it is minified again.  It then loses that comment and two slashes with it.
No run adds a slash, so the slashes of a source bound the number of runs that
change anything.
-/

namespace AssetMinifier

open Comment (slash)

/-- A function on texts spends slashes if it adds none, and if a text that it
made either stays as it is or loses two of them. -/
structure SpendsSlashes (f : Text → Text) : Prop where
  count_le : ∀ s, (f s).count slash ≤ s.count slash
  fixed_or_le : ∀ s,
    f (f s) = f s ∨ (f (f s)).count slash + 2 ≤ (f s).count slash

namespace SpendsSlashes

variable {f : Text → Text}

/-- Each run behind the first one that changes something costs two slashes. -/
theorem iterate_fixed_or_le
    (h : SpendsSlashes f) (s : Text) (k : Nat) :
    f (f^[k + 1] s) = f^[k + 1] s ∨
      (f^[k + 2] s).count slash + 2 * (k + 1) ≤ s.count slash := by
  induction k with
  | zero =>
      have hle := h.count_le s
      rcases h.fixed_or_le s with hfixed | hspent
      · exact Or.inl hfixed
      · exact Or.inr (hspent.trans hle)
  | succ k ih =>
      have hnext : f^[k + 2] s = f (f^[k + 1] s) :=
        Function.iterate_succ_apply' f (k + 1) s
      have hlater : f^[k + 3] s = f (f^[k + 2] s) :=
        Function.iterate_succ_apply' f (k + 2) s
      rw [hlater, hnext]
      rw [hnext] at ih
      rcases h.fixed_or_le (f^[k + 1] s) with hfixed | hspent
      · exact Or.inl hfixed
      · rcases ih with hfixed | hle
        · left
          rw [hfixed, hfixed]
        · right
          omega

/-- After as many runs as there are pairs of slashes, and one more, nothing
changes any longer. -/
theorem iterate_eq_of_le
    (h : SpendsSlashes f) (s : Text) {n k : Nat}
    (hn : s.count slash ≤ n) (hk : n / 2 ≤ k) :
    f^[k + 1] s = f^[n / 2 + 1] s := by
  have hfixed : f (f^[n / 2 + 1] s) = f^[n / 2 + 1] s := by
    rcases h.iterate_fixed_or_le s (n / 2) with hfixed | hle
    · exact hfixed
    · omega
  obtain ⟨more, rfl⟩ := Nat.exists_eq_add_of_le' hk
  rw [Nat.add_assoc, Function.iterate_add_apply, Function.iterate_fixed hfixed]

end SpendsSlashes

theorem Stylesheet.spendsSlashes_minify : SpendsSlashes minify where
  count_le := by
    intro s
    rw [count_slash_minify]
    exact (Comment.withoutBlocks_stripBlocks s).count_slash_le
  fixed_or_le := by
    intro s
    by_cases hblock : Comment.HasBlock (minify s)
    · right
      rw [count_slash_minify]
      exact (Comment.withoutBlocks_stripBlocks _).count_slash_add_two_le hblock
    · left
      exact minify_minify_of_no_comment
        (Comment.stripBlocks_of_not_hasBlock hblock)

theorem Script.spendsSlashes_minify : SpendsSlashes minify where
  count_le := by
    intro s
    rw [count_slash_minify]
    exact (Comment.withoutBlocks_stripBlocks _).count_slash_le.trans
      (Comment.count_slash_stripLinesFrom_le false none s)
  fixed_or_le := by
    intro s
    rcases Comment.no_comment_or_count_slash_le (minify s) with
      ⟨hlines, hblock⟩ | hle
    · left
      exact minify_minify_of_no_comment
        (Comment.stripBlocks_stripLines_eq_self hlines hblock)
    · right
      rw [count_slash_minify]
      exact hle

namespace Engine

/-- Where an engine never fails, the results of repeated runs are the iterates
of one function. -/
theorem iterate_eq_ok
    {engine : Engine} {kind : Kind} {f : Text → Text}
    (h : ∀ s, engine.minify kind s = .ok (f s)) (times : Nat) (s : Text) :
    engine.iterate kind times s =
      .ok ((List.range times).map fun i => f^[i + 1] s) := by
  induction times generalizing s with
  | zero => rfl
  | succ times ih =>
      have hlater : (List.range times).map (fun i => f^[i + 1] (f s)) =
          (List.range times).map ((fun i => f^[i + 1] s) ∘ Nat.succ) := rfl
      rw [iterate, h, List.range_succ_eq_map, List.map_cons, List.map_map,
        ← hlater]
      simp [bind, Except.bind, ih, pure, Except.pure]

theorem exists_spendsSlashes
    {kind : Kind} (hkind : kind = .css ∨ kind = .js) :
    ∃ f, SpendsSlashes f ∧ ∀ s, rules.minify kind s = .ok (f s) := by
  rcases hkind with rfl | rfl
  · exact ⟨_, Stylesheet.spendsSlashes_minify, fun _ => rfl⟩
  · exact ⟨_, Script.spendsSlashes_minify, fun _ => rfl⟩

/-- Repeated runs of the rule engine never fail and settle: with `n` bytes in
the source that are no blanks, all results from number `1 + n / 2` on are the
same, and this text stays as it is. -/
theorem iterate_rules_settles
    {kind : Kind} (hkind : kind = .css ∨ kind = .js) (s : Text) :
    ∃ settled, rules.minify kind settled = .ok settled ∧
      ∀ times, ∃ results, rules.iterate kind times s = .ok results ∧
        results.length = times ∧
        ∀ i, s.countP (· ≠ 0x20) / 2 ≤ i → i < times →
          results[i]? = some settled := by
  obtain ⟨f, hspends, hrun⟩ := exists_spendsSlashes hkind
  have hslashes : s.count slash ≤ s.countP (· ≠ 0x20) := by
    refine List.countP_mono_left fun b _ hb => ?_
    rw [beq_iff_eq.mp hb]
    decide
  have hsettled : ∀ i, s.countP (· ≠ 0x20) / 2 ≤ i →
      f^[i + 1] s = f^[s.countP (· ≠ 0x20) / 2 + 1] s :=
    fun i hi => hspends.iterate_eq_of_le s hslashes hi
  refine ⟨f^[s.countP (· ≠ 0x20) / 2 + 1] s, ?_, ?_⟩
  · rw [hrun, ← Function.iterate_succ_apply' f]
    exact congrArg _ (hsettled _ (Nat.le_succ _))
  · intro times
    refine ⟨_, iterate_eq_ok hrun times s, by simp, fun i hi htimes => ?_⟩
    rw [List.getElem?_map, List.getElem?_range htimes, Option.map_some,
      hsettled i hi]

/-- The blanks between two slashes go in the first run, and the comment that
they begin goes in the second. -/
theorem iterate_rules_settles_slashes :
    (Kind.js = .css ∨ Kind.js = .js) ∧
      rules.iterate .js 4 "a / / b" = .ok ["a//b", "a", "a", "a"] ∧
      ∃ settled, rules.minify .js settled = .ok settled ∧
        ∀ times, ∃ results,
          rules.iterate .js times "a / / b" = .ok results ∧
          results.length = times ∧
          ∀ i, 4 / 2 ≤ i → i < times → results[i]? = some settled :=
  ⟨Or.inr rfl, by decide +kernel, iterate_rules_settles (Or.inr rfl) "a / / b"⟩

end Engine

end AssetMinifier
