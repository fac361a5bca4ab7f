import AssetMinifier.Minify.Comment
import AssetMinifier.Proofs.Text.Split
import Mathlib.Data.List.TakeWhile

/-!
# Line comments that are removed

The scan that drops line comments can be described in two other ways.  Line by
line, each line is cut where its first comment starts.  And as a search for a
pattern with a look-behind, every match is erased, from left to right, while
the look-behind sees what stood in the text at first.
-/

namespace AssetMinifier.Comment

/-! ## Cutting a line -/

/-- Whether a comment starts at a position of a line: two slashes, and no colon
before them. -/
def startsAt (t : Text) (i : Nat) : Bool :=
  t[i]? = some slash && t[i + 1]? = some slash &&
    (i = 0 || t[i - 1]? ≠ some colon)

/-- A line up to the first position at which a comment starts. -/
def cutLine (line : Text) : Text :=
  line.take ((List.range line.length).findIdx (startsAt line))

theorem startsAt_length
    (before : Text) (b : UInt8) (t : Text) :
    startsAt (before ++ b :: t) before.length =
      startsLine before.getLast? b t := by
  have hself : (before ++ b :: t)[before.length]? = some b := by
    simp
  have hnext : (before ++ b :: t)[before.length + 1]? = t.head? := by
    rw [List.getElem?_append_right (Nat.le_add_right _ 1),
      Nat.add_sub_cancel_left, List.getElem?_cons_succ, List.head?_eq_getElem?]
  rw [startsAt, startsLine, hself, hnext]
  rcases List.eq_nil_or_concat before with rfl | ⟨before, c, rfl⟩
  · simp
  · simp

theorem cutLine_eq_take
    {line : Text} {n : Nat} (hn : n ≤ line.length)
    (hbefore : ∀ i < n, startsAt line i = false)
    (hstart : n < line.length → startsAt line n) :
    cutLine line = line.take n := by
  have hindex : (List.range line.length).findIdx (startsAt line) = n := by
    rcases Nat.lt_or_eq_of_le hn with hlt | rfl
    · rw [List.findIdx_eq (by simpa using hlt)]
      simpa using ⟨hstart hlt, hbefore⟩
    · rw [List.findIdx_eq_length.mpr, List.length_range]
      intro i hi
      exact hbefore i (List.mem_range.mp hi)
  rw [cutLine, hindex]

theorem startsAt_of_take
    {line : Text} {n i : Nat} (h : startsAt (line.take n) i) :
    i < n ∧ startsAt line i := by
  have hlt : i < n := by
    by_contra hge
    simp [startsAt, List.getElem?_take, hge] at h
  have hnext : i + 1 < n := by
    by_contra hge
    simp [startsAt, List.getElem?_take, hge] at h
  have hprev : i - 1 < n := Nat.lt_of_le_of_lt (Nat.sub_le i 1) hlt
  simp only [startsAt, List.getElem?_take, if_pos hlt, if_pos hnext,
    if_pos hprev] at h
  exact ⟨hlt, h⟩

/-- A line that was cut has no comment left. -/
theorem cutLine_cutLine
    (line : Text) :
    cutLine (cutLine line) = cutLine line := by
  have hnone : ∀ i < (cutLine line).length,
      startsAt (cutLine line) i = false := by
    intro i hi
    rw [← Bool.not_eq_true]
    intro hstart
    obtain ⟨hlt, hstart⟩ := startsAt_of_take hstart
    have hbefore := List.not_of_lt_findIdx hlt
    simp [hstart] at hbefore
  have hcut := cutLine_eq_take (Nat.le_refl _) hnone
    fun hlt => absurd hlt (Nat.lt_irrefl _)
  rw [hcut, List.take_length]

/-! ## The scan inside a line -/

theorem startsLine_newline
    (prev : Option UInt8) (t : Text) :
    startsLine prev newline t = false := by
  have hne : newline ≠ slash := by decide
  simp [startsLine, hne]

theorem stripLinesFrom_newline
    (inside : Bool) (prev : Option UInt8) (t : Text) :
    stripLinesFrom inside prev (newline :: t) =
      newline :: stripLinesFrom false (some newline) t := by
  cases inside with
  | true => simp [stripLinesFrom]
  | false => simp [stripLinesFrom, startsLine_newline]

/-- Behind a newline the scan is where it was at the start. -/
theorem stripLinesFrom_some_newline
    (t : Text) :
    stripLinesFrom false (some newline) t = stripLines t := by
  cases t with
  | nil => rfl
  | cons b t =>
      have hne : newline ≠ colon := by decide
      simp [stripLines, stripLinesFrom, startsLine, hne]

/-- Nothing is kept of a comment before the end of its line. -/
theorem stripLinesFrom_inside_append
    {body : Text} (hbody : newline ∉ body) (after : Text)
    (prev prev' : Option UInt8) :
    stripLinesFrom true prev (body ++ after) =
      stripLinesFrom true prev' after := by
  induction body generalizing prev with
  | nil =>
      cases after with
      | nil => rfl
      | cons b after => rfl
  | cons b body ih =>
      rw [List.mem_cons, not_or] at hbody
      rw [List.cons_append, stripLinesFrom, if_neg (Ne.symm hbody.1)]
      exact ih hbody.2 (some b)

theorem stripLinesFrom_inside
    {body : Text} (hbody : newline ∉ body) {after : Text}
    (hafter : ∀ b ∈ after.head?, b = newline) (prev prev' : Option UInt8) :
    stripLinesFrom true prev (body ++ after) =
      stripLinesFrom false prev' after := by
  rw [stripLinesFrom_inside_append hbody after prev prev']
  cases after with
  | nil => rfl
  | cons b after =>
      obtain rfl := hafter b rfl
      rw [stripLinesFrom_newline, stripLinesFrom_newline]

/-- Outside of a comment, everything without a slash is kept. -/
theorem stripLinesFrom_append_of_notMem
    {s : Text} (h : slash ∉ s) (prev : Option UInt8) (t : Text) :
    stripLinesFrom false prev (s ++ t) =
      s ++ stripLinesFrom false (s.getLast?.or prev) t := by
  induction s generalizing prev with
  | nil => rfl
  | cons b s ih =>
      rw [List.mem_cons, not_or] at h
      have hstart : startsLine prev b (s ++ t) = false := by
        simp [startsLine, Ne.symm h.1]
      have hlast : (b :: s).getLast?.or prev = s.getLast?.or (some b) := by
        rw [List.getLast?_cons]
        cases s.getLast? with
        | none => rfl
        | some c => rfl
      rw [List.cons_append, stripLinesFrom, hstart, if_neg Bool.false_ne_true,
        ih h.2, hlast, List.cons_append]

theorem stripLinesFrom_inside_line
    {line : Text} (hline : newline ∉ line) (prev : Option UInt8) :
    stripLinesFrom true prev line = [] := by
  have hend : ∀ b ∈ ([] : Text).head?, b = newline := by simp
  have hinside := stripLinesFrom_inside hline hend prev none
  rw [List.append_nil] at hinside
  exact hinside

/-- The scan of a line keeps what stands before the first position at which a
comment starts. -/
theorem exists_stripLinesFrom_eq_take
    (before : Text) {line : Text} (hline : newline ∉ line) :
    ∃ n ≤ line.length,
      stripLinesFrom false before.getLast? line = line.take n ∧
      (∀ i < n, startsAt (before ++ line) (before.length + i) = false) ∧
      (n < line.length → startsAt (before ++ line) (before.length + n)) := by
  induction line generalizing before with
  | nil => exact ⟨0, Nat.le_refl 0, rfl, by simp, by simp⟩
  | cons b line ih =>
      rw [List.mem_cons, not_or] at hline
      have hhead := startsAt_length before b line
      by_cases hstart : startsLine before.getLast? b line
      · refine ⟨0, Nat.zero_le _, ?_, by simp, fun _ => ?_⟩
        · rw [stripLinesFrom, if_pos hstart, List.take_zero]
          exact stripLinesFrom_inside_line hline.2 (some b)
        · rwa [Nat.add_zero, hhead]
      · obtain ⟨n, hn, htake, hbefore, hat⟩ := ih (before ++ [b]) hline.2
        rw [List.append_assoc, List.singleton_append, List.length_append,
          List.length_singleton] at hbefore hat
        rw [List.getLast?_concat] at htake
        refine ⟨n + 1, Nat.succ_le_succ hn, ?_, ?_, ?_⟩
        · rw [stripLinesFrom, if_neg hstart, htake, List.take_succ_cons]
        · intro i hi
          cases i with
          | zero =>
              rw [Nat.add_zero, hhead]
              simpa using hstart
          | succ i =>
              have hi' := hbefore i (Nat.lt_of_succ_lt_succ hi)
              rwa [Nat.add_right_comm, Nat.add_assoc] at hi'
        · intro hlt
          have hat' := hat (Nat.lt_of_succ_lt_succ hlt)
          rwa [Nat.add_right_comm, Nat.add_assoc] at hat'

theorem stripLines_eq_cutLine
    {line : Text} (hline : newline ∉ line) :
    stripLines line = cutLine line := by
  obtain ⟨n, hn, htake, hbefore, hstart⟩ :=
    exists_stripLinesFrom_eq_take [] hline
  have hcut : cutLine line = line.take n := by
    apply cutLine_eq_take hn
    · simpa using hbefore
    · simpa using hstart
  rw [hcut]
  exact htake

/-! ## Lines of a text -/

theorem startsLine_append_newline
    (prev : Option UInt8) (b : UInt8) (line t : Text) :
    startsLine prev b (line ++ newline :: t) = startsLine prev b line := by
  cases line with
  | nil =>
      have hne : newline ≠ slash := by decide
      simp [startsLine, hne]
  | cons c line => rfl

/-- A newline ends whatever the scan was in. -/
theorem stripLinesFrom_append_newline
    {line : Text} (hline : newline ∉ line)
    (inside : Bool) (prev : Option UInt8) (t : Text) :
    stripLinesFrom inside prev (line ++ newline :: t) =
      stripLinesFrom inside prev line ++ newline :: stripLines t := by
  induction line generalizing inside prev with
  | nil =>
      rw [List.nil_append, stripLinesFrom_newline, stripLinesFrom_some_newline]
      cases inside <;> rfl
  | cons b line ih =>
      rw [List.mem_cons, not_or] at hline
      have hb : b ≠ newline := Ne.symm hline.1
      rw [List.cons_append]
      cases inside with
      | true =>
          rw [stripLinesFrom, stripLinesFrom, if_neg hb, if_neg hb,
            ih hline.2]
      | false =>
          rw [stripLinesFrom, stripLinesFrom, startsLine_append_newline,
            ih hline.2, ih hline.2]
          split
          · rfl
          · rfl

theorem newline_notMem_cutLine
    {line : Text} (hline : newline ∉ line) :
    newline ∉ cutLine line :=
  fun hmem => hline (List.mem_of_mem_take hmem)

/-- The lines that are left are the lines of the text, each of them cut. -/
theorem splitOn_stripLines
    (s : Text) :
    Text.splitOn newline (stripLines s) =
      (Text.splitOn newline s).map cutLine := by
  by_cases hmem : newline ∈ s
  · obtain ⟨line, t, hs, hline⟩ := List.eq_append_cons_of_mem hmem
    have hshorter : t.length < s.length := by
      rw [hs, List.length_append, List.length_cons]
      omega
    have hstrip : stripLines s = cutLine line ++ newline :: stripLines t := by
      rw [hs, ← stripLines_eq_cutLine hline]
      exact stripLinesFrom_append_newline hline false none t
    rw [hstrip, hs, Text.splitOn_append_separator,
      Text.splitOn_append_separator, splitOn_stripLines t,
      Text.splitOn_of_notMem hline,
      Text.splitOn_of_notMem (newline_notMem_cutLine hline), List.map_append]
    rfl
  · rw [stripLines_eq_cutLine hmem, Text.splitOn_of_notMem hmem,
      Text.splitOn_of_notMem (newline_notMem_cutLine hmem)]
    rfl
termination_by s.length
decreasing_by exact hshorter

theorem stripLines_eq_join
    (s : Text) :
    stripLines s =
      Text.join [newline] ((Text.splitOn newline s).map cutLine) := by
  rw [← splitOn_stripLines, Text.join_splitOn]

theorem map_cutLine_splitOn
    (s : Text) :
    (Text.splitOn newline s).map cutLine =
      (Text.splitOn newline s).map stripLines := by
  apply List.map_congr_left
  intro line hline
  exact (stripLines_eq_cutLine (Text.notMem_of_mem_splitOn hline)).symm

theorem count_newline_stripLines
    (s : Text) :
    (stripLines s).count newline = s.count newline := by
  have hlength := congrArg List.length (splitOn_stripLines s)
  rw [List.length_map, Text.length_splitOn, Text.length_splitOn] at hlength
  exact Nat.succ.inj hlength

theorem stripLines_stripLines
    (s : Text) :
    stripLines (stripLines s) = stripLines s := by
  have hcut : cutLine ∘ cutLine = cutLine := funext cutLine_cutLine
  calc
    stripLines (stripLines s) =
        Text.join [newline]
          ((Text.splitOn newline (stripLines s)).map cutLine) :=
      stripLines_eq_join _
    _ = Text.join [newline] ((Text.splitOn newline s).map cutLine) := by
      rw [splitOn_stripLines, List.map_map, hcut]
    _ = stripLines s := (stripLines_eq_join s).symm

/-! ## Erasing a pattern -/

/-- A pattern says which parts of a text it matches, given what stands before
and behind them. -/
abbrev Pattern := Text → Text → Text → Prop

/-- A match of the pattern starts behind `before`. -/
def Pattern.MatchesAt (pattern : Pattern) (before rest : Text) : Prop :=
  ∃ found after, rest = found ++ after ∧ pattern before found after

/-- `Erased pattern before s t` says that `s`, which stands behind `before`,
becomes `t` when every match of the pattern is erased from left to right. -/
inductive Erased (pattern : Pattern) : Text → Text → Text → Prop
  /-- Where nothing matches, everything stays. -/
  | keep {before s : Text}
      (hnone : ∀ p q, s = p ++ q → ¬pattern.MatchesAt (before ++ p) q) :
      Erased pattern before s s
  /-- The leftmost match goes, and the search goes on behind it. -/
  | cut {before skipped found after t : Text}
      (hskipped : ∀ p b q, skipped = p ++ b :: q →
        ¬pattern.MatchesAt (before ++ p) (b :: q ++ (found ++ after)))
      (hfound : pattern (before ++ skipped) found after)
      (hafter : Erased pattern (before ++ skipped ++ found) after t) :
      Erased pattern before (skipped ++ (found ++ after)) (skipped ++ t)

theorem Erased.cons
    {pattern : Pattern} {before s t : Text} {b : UInt8}
    (h : Erased pattern (before ++ [b]) s t)
    (hnot : ¬pattern.MatchesAt before (b :: s)) :
    Erased pattern before (b :: s) (b :: t) := by
  cases h with
  | keep hnone =>
      apply Erased.keep
      intro p q hsplit
      cases p with
      | nil =>
          rw [List.append_nil, ← List.nil_append q, ← hsplit]
          exact hnot
      | cons c p =>
          obtain ⟨rfl, hs⟩ := List.cons.inj hsplit
          have hlater := hnone p q hs
          rwa [List.append_assoc, List.singleton_append] at hlater
  | @cut _ skipped found after t hskipped hfound hafter =>
      have hassoc : before ++ [b] ++ skipped = before ++ b :: skipped := by
        rw [List.append_assoc, List.singleton_append]
      rw [hassoc] at hfound hafter
      refine @Erased.cut pattern before (b :: skipped) found after t ?_ hfound
        hafter
      intro p c q hsplit
      cases p with
      | nil =>
          rw [List.append_nil, ← List.nil_append (c :: q), ← hsplit]
          exact hnot
      | cons d p =>
          obtain ⟨rfl, hs⟩ := List.cons.inj hsplit
          have hlater := hskipped p c q hs
          rwa [List.append_assoc, List.singleton_append] at hlater

/-- The pattern `(?<!:)//[^\n]*`: no colon before, two slashes, and all that
follows up to a newline or the end. -/
def lineComment : Pattern := fun before found after =>
  before.getLast? ≠ some colon ∧
    ∃ body, found = slash :: slash :: body ∧ newline ∉ body ∧
      ∀ b ∈ after.head?, b = newline

theorem matchesAt_lineComment_iff
    {before : Text} {b : UInt8} {t : Text} :
    lineComment.MatchesAt before (b :: t) ↔
      startsLine before.getLast? b t = true := by
  simp only [startsLine, Bool.and_eq_true, decide_eq_true_eq]
  constructor
  · rintro ⟨found, after, hsplit, hcolon, body, rfl, -, -⟩
    obtain ⟨rfl, rfl⟩ := List.cons.inj hsplit
    exact ⟨⟨rfl, rfl⟩, hcolon⟩
  · rintro ⟨⟨rfl, hhead⟩, hcolon⟩
    cases t with
    | nil => simp at hhead
    | cons c t =>
        obtain rfl : c = slash := by simpa using hhead
        refine ⟨slash :: slash :: t.takeWhile (· ≠ newline),
          t.dropWhile (· ≠ newline), ?_, hcolon, _, rfl, ?_, ?_⟩
        · simp
        · intro hmem
          have hne := List.mem_takeWhile_imp hmem
          simp at hne
        · intro b hb
          have hnot := List.head?_dropWhile_not (· ≠ newline) t
          rw [Option.mem_def.mp hb] at hnot
          simpa using hnot

theorem not_matchesAt_lineComment_nil
    (before : Text) :
    ¬lineComment.MatchesAt before [] := by
  rintro ⟨found, after, hsplit, -, body, rfl, -, -⟩
  cases hsplit

/-- What is passed over in the search is kept by the scan. -/
theorem stripLinesFrom_skipped
    (before : Text) {skipped rest : Text}
    (hskipped : ∀ p b q, skipped = p ++ b :: q →
      ¬lineComment.MatchesAt (before ++ p) (b :: q ++ rest)) :
    stripLinesFrom false before.getLast? (skipped ++ rest) =
      skipped ++ stripLinesFrom false (before ++ skipped).getLast? rest := by
  induction skipped generalizing before with
  | nil => rw [List.nil_append, List.nil_append, List.append_nil]
  | cons b skipped ih =>
      have hfirst := hskipped [] b skipped rfl
      rw [List.append_nil, List.cons_append, matchesAt_lineComment_iff] at hfirst
      have hlater := ih (before ++ [b]) fun p c q hsplit => by
        rw [List.append_assoc, List.singleton_append]
        exact hskipped (b :: p) c q (by rw [hsplit, List.cons_append])
      rw [List.getLast?_concat, List.append_assoc,
        List.singleton_append] at hlater
      rw [List.cons_append, stripLinesFrom, if_neg hfirst, hlater,
        List.cons_append]

/-- What the pattern matches is dropped by the scan. -/
theorem stripLinesFrom_lineComment
    {before found after : Text} (h : lineComment before found after) :
    stripLinesFrom false before.getLast? (found ++ after) =
      stripLinesFrom false (before ++ found).getLast? after := by
  have hstart : lineComment.MatchesAt before (found ++ after) :=
    ⟨found, after, rfl, h⟩
  obtain ⟨-, body, rfl, hbody, hafter⟩ := h
  rw [List.cons_append, List.cons_append, matchesAt_lineComment_iff] at hstart
  have hrest : newline ∉ slash :: body := by
    rw [List.mem_cons, not_or]
    exact ⟨by decide, hbody⟩
  rw [List.cons_append, List.cons_append, stripLinesFrom, if_pos hstart]
  exact stripLinesFrom_inside hrest hafter _ _

theorem erased_stripLinesFrom
    (before s : Text) :
    Erased lineComment before s (stripLinesFrom false before.getLast? s) := by
  match s with
  | [] =>
      apply Erased.keep
      intro p q hsplit
      obtain ⟨rfl, rfl⟩ := List.append_eq_nil_iff.mp hsplit.symm
      exact not_matchesAt_lineComment_nil _
  | b :: t =>
      by_cases hmatch : lineComment.MatchesAt before (b :: t)
      · obtain ⟨found, after, hsplit, hfound⟩ := hmatch
        have hshorter : after.length < (b :: t).length := by
          obtain ⟨-, body, rfl, -, -⟩ := hfound
          rw [hsplit, List.length_append, List.length_cons]
          omega
        have hafter := erased_stripLinesFrom (before ++ found) after
        rw [hsplit, stripLinesFrom_lineComment hfound]
        refine @Erased.cut _ before [] found after _ ?_ ?_ ?_
        · simp
        · rwa [List.append_nil]
        · rwa [List.append_nil]
      · have htail := erased_stripLinesFrom (before ++ [b]) t
        have hstart : ¬startsLine before.getLast? b t :=
          fun h => hmatch (matchesAt_lineComment_iff.mpr h)
        rw [List.getLast?_concat] at htail
        rw [stripLinesFrom, if_neg hstart]
        exact htail.cons hmatch
termination_by s.length
decreasing_by
  · exact hshorter
  · exact Nat.lt_succ_self t.length

/-- The scan erases the pattern. -/
theorem erased_lineComment_iff
    {before s t : Text} :
    Erased lineComment before s t ↔
      t = stripLinesFrom false before.getLast? s := by
  constructor
  · intro h
    induction h with
    | @keep before s hnone =>
        have hskipped : ∀ p b q, s = p ++ b :: q →
            ¬lineComment.MatchesAt (before ++ p) (b :: q ++ []) := by
          intro p b q hsplit
          rw [List.append_nil]
          exact hnone p (b :: q) hsplit
        have hkept := stripLinesFrom_skipped before hskipped
        rw [List.append_nil, stripLinesFrom, List.append_nil] at hkept
        exact hkept.symm
    | cut hskipped hfound hafter ih =>
        rw [stripLinesFrom_skipped _ hskipped,
          stripLinesFrom_lineComment hfound, ih]
  · rintro rfl
    exact erased_stripLinesFrom before s

/-- Dropping line comments cuts each line at its first comment, and erases all
matches of one pattern.  Newlines stay, every line is stripped by itself, and
nothing is left to strip. -/
theorem stripLines_cuts_and_erases
    (s : Text) :
    stripLines s =
        Text.join [newline] ((Text.splitOn newline s).map cutLine) ∧
      (∀ t, Erased lineComment [] s t ↔ t = stripLines s) ∧
      (stripLines s).count newline = s.count newline ∧
      Text.splitOn newline (stripLines s) =
        (Text.splitOn newline s).map stripLines ∧
      stripLines (stripLines s) = stripLines s := by
  refine ⟨stripLines_eq_join s, ?_, count_newline_stripLines s, ?_,
    stripLines_stripLines s⟩
  · intro t
    exact erased_lineComment_iff
  · rw [splitOn_stripLines, map_cutLine_splitOn]

end AssetMinifier.Comment
