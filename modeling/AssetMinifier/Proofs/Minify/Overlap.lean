import AssetMinifier.Proofs.Minify.LineComment
import AssetMinifier.Proofs.Minify.Phrase

/-!
# Comments that overlap

A script loses its line comments before its block comments.  Where a block
comment directly follows another one, the two slashes between them start a line
comment.  It takes the end of the first block comment away, which then runs on
behind the line, up to the next end that is left.

So the scan of a divider is in one of three regions, and one step for each
filler says where it goes.  Two words stay apart if and only if the scan comes
back to the text before the second of them and has met white space there.
-/

namespace AssetMinifier

open Comment (slash star newline stripBlocks stripLines stripLinesFrom)
open Layout (cells write)

/-- Where the scan of a script stands. -/
inductive Region where
  /-- Outside of every comment. -/
  | text
  /-- In a line comment that hides the end of a block comment. -/
  | line
  /-- Behind such a line comment, in the block comment without its end. -/
  | block
  deriving DecidableEq, Repr

namespace Region

/-- The region behind the end of a block comment, given whether another comment
follows directly. -/
def atEnd (next : Bool) : Region :=
  if next then .line else .text

/-- The region behind a filler, given whether a comment follows it directly. -/
def step (next : Bool) : Region → Filler → Region
  | .line, .space r _ => if r = .char '\n' then .block else .line
  | .line, .comment body _ => if newline ∈ body then atEnd next else .line
  | region, .space _ _ => region
  | _, .comment _ _ => atEnd next

/-- The region behind some fillers. -/
def run : Region → List Filler → Region
  | region, [] => region
  | region, f :: fillers =>
    run (step (fillers.head?.any Filler.isComment) region f) fillers

/-- What is left of some runes: all of them in the text, none in a comment. -/
def keep : Region → List Rune → List Rune
  | .text, rs => rs
  | _, _ => []

/-- The white space that is left of some fillers. -/
def spaces : Region → List Filler → List Rune
  | _, [] => []
  | region, f :: fillers =>
    region.keep f.runes ++
      spaces (step (fillers.head?.any Filler.isComment) region f) fillers

/-- The region behind dividers and words. -/
def last (region : Region) (others : List (Divider × Word)) : Region :=
  others.foldl (fun region x => region.run x.1.fillers) region

/-- What is left of dividers and words. -/
def left : Region → List (Divider × Word) → List Rune
  | _, [] => []
  | region, x :: others =>
    region.spaces x.1.fillers ++
      ((region.run x.1.fillers).keep x.2.text.runes ++
        left (region.run x.1.fillers) others)

end Region

namespace Divider

/-- The scan of a divider comes back to the text, and has met white space
there. -/
def KeepsSpace (d : Divider) : Prop :=
  Region.run .text d.fillers = .text ∧ Region.spaces .text d.fillers ≠ []

instance (d : Divider) : Decidable d.KeepsSpace :=
  inferInstanceAs (Decidable (_ ∧ _))

/-- No comment of a divider directly follows another one. -/
def CommentsApart (d : Divider) : Prop :=
  d.fillers.IsChain fun f g => ¬(f.isComment ∧ g.isComment)

end Divider

/-! ## The scan of one filler -/

/-- Nothing without a slash ends a block comment. -/
theorem Comment.not_infix_append
    {s t : Text} (hs : ¬[star, slash] <:+: s) (ht : slash ∉ t) :
    ¬[star, slash] <:+: s ++ t := by
  rw [Comment.pair_infix_append, not_or, not_or]
  refine ⟨hs, ?_, ?_⟩
  · intro hpair
    exact ht (hpair.subset (by simp))
  · rintro ⟨-, hhead⟩
    exact ht (List.mem_of_head? hhead)

namespace Region

/-- In the given region and with `t` to come, `out` is what the rest of a script
leaves.  In a comment, `opened` is what line comments left of its body so far. -/
def Leaves : Region → Text → Text → Prop
  | .text, t, out => ∃ prev, out = stripBlocks (stripLinesFrom false prev t)
  | .line, t, out => ∃ prev opened, ¬[star, slash] <:+: opened ∧
      out = stripBlocks (slash :: star :: (opened ++ stripLinesFrom true prev t))
  | .block, t, out => ∃ prev opened, ¬[star, slash] <:+: opened ∧
      opened.getLast? ≠ some star ∧
      out = stripBlocks (slash :: star :: (opened ++ stripLinesFrom false prev t))

theorem leaves_atEnd
    {opened body t : Text} (hopened : ¬[star, slash] <:+: opened ++ body)
    (hbody : slash ∉ body) {next : Bool} (hnext : next ↔ t.head? = some slash)
    (prev : Option UInt8) :
    Leaves (atEnd next) t (stripBlocks (slash :: star :: (opened ++
      stripLinesFrom false prev (body ++ star :: slash :: t)))) := by
  have hstar : slash ∉ body ++ [star] := by
    rw [List.mem_append, not_or]
    exact ⟨hbody, by decide⟩
  have hscan : opened ++
      stripLinesFrom false prev (body ++ star :: slash :: t) =
        opened ++ body ++
          star :: stripLinesFrom false (some star) (slash :: t) := by
    have hsplit : body ++ star :: slash :: t = body ++ [star] ++ slash :: t := by
      simp
    rw [hsplit, Comment.stripLinesFrom_append_of_notMem hstar,
      List.getLast?_concat]
    simp
  rw [hscan, stripLinesFrom]
  cases next with
  | true =>
      have hne : some star ≠ some Comment.colon := by decide
      have hstart : Comment.startsLine (some star) slash t := by
        simp [Comment.startsLine, hnext.mp rfl, hne]
      rw [if_pos hstart]
      refine ⟨some slash, opened ++ body ++ [star], ?_, by simp⟩
      exact Comment.not_infix_append hopened (by decide)
  | false =>
      have hhead : t.head? ≠ some slash := by
        intro hhead
        exact absurd (hnext.mpr hhead) Bool.false_ne_true
      have hstart : ¬Comment.startsLine (some star) slash t := by
        simp [Comment.startsLine, hhead]
      rw [if_neg hstart, Comment.stripBlocks_block hopened]
      exact ⟨some slash, rfl⟩

namespace Leaves

variable {region : Region} {t out : Text}

/-- Words and white space are kept in the text and dropped in a comment. -/
theorem plain
    {rs : List Rune} (hslash : slash ∉ Text.ofRunes rs)
    (hstar : star ∉ Text.ofRunes rs)
    (hline : region = .line → newline ∉ Text.ofRunes rs)
    (h : Leaves region (Text.ofRunes rs ++ t) out) :
    ∃ rest, out = Text.ofRunes (region.keep rs) ++ rest ∧
      Leaves region t rest := by
  cases region with
  | text =>
      obtain ⟨prev, rfl⟩ := h
      rw [Comment.stripLinesFrom_append_of_notMem hslash,
        Comment.stripBlocks_append_of_notMem hslash]
      exact ⟨_, rfl, _, rfl⟩
  | line =>
      obtain ⟨prev, opened, hopened, rfl⟩ := h
      rw [Comment.stripLinesFrom_inside_append (hline rfl) t prev prev]
      exact ⟨_, rfl, prev, opened, hopened, rfl⟩
  | block =>
      obtain ⟨prev, opened, hopened, hlast, rfl⟩ := h
      rw [Comment.stripLinesFrom_append_of_notMem hslash, ← List.append_assoc]
      refine ⟨_, rfl, _, _, Comment.not_infix_append hopened hslash, ?_, rfl⟩
      rw [List.getLast?_append]
      intro hor
      rcases Option.or_eq_some_iff.mp hor with hmem | ⟨-, hmem⟩
      · exact hstar (List.mem_of_getLast? hmem)
      · exact hlast hmem

theorem lineEnd
    (h : Leaves .line (newline :: t) out) :
    Leaves .block t out := by
  obtain ⟨prev, opened, hopened, rfl⟩ := h
  rw [Comment.stripLinesFrom_newline]
  refine ⟨some newline, opened ++ [newline], ?_, ?_, ?_⟩
  · exact Comment.not_infix_append hopened (by decide)
  · rw [List.getLast?_concat]
    decide
  · simp

/-- A comment that a line comment does not hide ends where it stands, or
overlaps with the next one. -/
theorem comment
    (hregion : region ≠ .line) {body : Text} (hbody : slash ∉ body)
    {next : Bool} (hnext : next ↔ t.head? = some slash)
    (h : Leaves region (slash :: star :: (body ++ star :: slash :: t)) out) :
    Leaves (atEnd next) t out := by
  have hscan : ∀ prev,
      stripLinesFrom false prev (slash :: star :: (body ++ star :: slash :: t)) =
        slash :: star ::
          stripLinesFrom false (some star) (body ++ star :: slash :: t) := by
    have hne : star ≠ slash := by decide
    simp [stripLinesFrom, Comment.startsLine, hne]
  cases region with
  | line => exact absurd rfl hregion
  | text =>
      have hpair : ¬[star, slash] <:+: [] ++ body :=
        Comment.not_infix_append (by decide) hbody
      obtain ⟨prev, rfl⟩ := h
      rw [hscan]
      exact leaves_atEnd hpair hbody hnext (some star)
  | block =>
      obtain ⟨prev, opened, hopened, hlast, rfl⟩ := h
      have hpair : ¬[star, slash] <:+: opened ++ [slash, star] ++ body := by
        refine Comment.not_infix_append ?_ hbody
        rw [Comment.pair_infix_append, not_or, not_or]
        exact ⟨hopened, by decide, fun hpair => hlast hpair.1⟩
      have hleaves := leaves_atEnd hpair hbody hnext (some star)
      rw [List.append_assoc] at hleaves
      rw [hscan]
      exact hleaves

/-- A comment that a line comment hides does not count, unless the line ends
in its body. -/
theorem comment_line
    {body : Text} (hbody : slash ∉ body)
    {next : Bool} (hnext : next ↔ t.head? = some slash)
    (h : Leaves .line (slash :: star :: (body ++ star :: slash :: t)) out) :
    Leaves (if newline ∈ body then atEnd next else .line) t out := by
  obtain ⟨prev, opened, hopened, rfl⟩ := h
  by_cases hmem : newline ∈ body
  · obtain ⟨before, after, rfl, hbefore⟩ := List.eq_append_cons_of_mem hmem
    have hafter : slash ∉ after := fun hmem => hbody (by simp [hmem])
    have hline : newline ∉ slash :: star :: before := by
      simp only [List.mem_cons, not_or]
      exact ⟨by decide, by decide, hbefore⟩
    have hsplit : slash :: star ::
        (before ++ newline :: after ++ star :: slash :: t) =
          slash :: star :: before ++
            newline :: (after ++ star :: slash :: t) := by
      simp
    have hpair : ¬[star, slash] <:+: opened ++ [newline] ++ after :=
      Comment.not_infix_append
        (Comment.not_infix_append hopened (by decide)) hafter
    have hleaves := leaves_atEnd hpair hafter hnext (some newline)
    rw [List.append_assoc] at hleaves
    rw [if_pos hmem, hsplit,
      Comment.stripLinesFrom_inside_append hline _ prev prev,
      Comment.stripLinesFrom_newline]
    exact hleaves
  · have hline : newline ∉ slash :: star :: (body ++ [star, slash]) := by
      simp only [List.mem_cons, List.mem_append, not_or]
      exact ⟨by decide, by decide, hmem, by decide, by decide, List.not_mem_nil⟩
    have hsplit : slash :: star :: (body ++ star :: slash :: t) =
        slash :: star :: (body ++ [star, slash]) ++ t := by
      simp
    rw [if_neg hmem, hsplit,
      Comment.stripLinesFrom_inside_append hline t prev prev]
    exact ⟨prev, opened, hopened, rfl⟩

/-- One filler takes the scan one step further. -/
theorem filler
    {f : Filler} {next : Bool} (hnext : next ↔ t.head? = some slash)
    (h : Leaves region (f.text ++ t) out) :
    ∃ rest, out = Text.ofRunes (region.keep f.runes) ++ rest ∧
      Leaves (step next region f) t rest := by
  cases f with
  | comment body hbody =>
      have hsplit : (Filler.comment body hbody).text ++ t =
          slash :: star :: (body ++ star :: slash :: t) := by
        simp [Filler.text]
      rw [hsplit] at h
      cases region with
      | text => exact ⟨out, rfl, h.comment (by decide) hbody hnext⟩
      | line => exact ⟨out, rfl, h.comment_line hbody hnext⟩
      | block => exact ⟨out, rfl, h.comment (by decide) hbody hnext⟩
  | space r hr =>
      have hbytes : Text.ofRunes [r] = r.bytes := by
        simp [Text.ofRunes]
      have hslash : slash ∉ Text.ofRunes [r] := by
        rw [hbytes]
        exact Filler.slash_notMem_bytes hr
      have hstar : star ∉ Text.ofRunes [r] := by
        rw [hbytes]
        exact Filler.notMem_bytes rfl
          (by decide : (Rune.char '*').isSpace = false) hr
      by_cases hend : region = .line ∧ r = .char '\n'
      · obtain ⟨rfl, rfl⟩ := hend
        exact ⟨out, rfl, h.lineEnd⟩
      · have hstep : step next region (.space r hr) = region := by
          cases region with
          | text => rfl
          | line => exact if_neg fun heq => hend ⟨rfl, heq⟩
          | block => rfl
        have hline : region = .line → newline ∉ Text.ofRunes [r] := by
          intro hregion hmem
          rw [hbytes] at hmem
          exact hend ⟨hregion,
            Rune.eq_char_of_mem_bytes (fun _ => rfl) rfl hr hmem⟩
        have hplain : Leaves region (Text.ofRunes [r] ++ t) out := by
          rw [hbytes]
          exact h
        rw [hstep]
        exact hplain.plain hslash hstar hline

end Leaves

end Region

/-! ## The scan of a phrase -/

theorem Filler.head?_text_append
    (f : Filler) (t : Text) :
    (f.text ++ t).head? = some slash ↔ f.isComment := by
  cases f with
  | comment body hbody => simp [text, isComment]
  | space r hr =>
      have hne : r.bytes ≠ [] := by
        cases r with
        | stray b => simp [Rune.isSpace] at hr
        | char c =>
            obtain ⟨b, tail, hbytes, -⟩ := Text.utf8EncodeChar_eq_cons c
            simp [Rune.bytes, hbytes]
      rw [text, List.head?_append_of_ne_nil _ hne]
      refine iff_of_false (fun hhead => ?_) Bool.false_ne_true
      exact slash_notMem_bytes hr (List.mem_of_head? hhead)

namespace Region

namespace Leaves

variable {region : Region} {out : Text}

/-- The run over the fillers of a divider. -/
theorem fillers
    {fillers : List Filler} {t : Text} (ht : t.head? ≠ some slash)
    (h : Leaves region (fillers.flatMap Filler.text ++ t) out) :
    ∃ rest, out = Text.ofRunes (region.spaces fillers) ++ rest ∧
      Leaves (region.run fillers) t rest := by
  induction fillers generalizing region out with
  | nil => exact ⟨out, rfl, h⟩
  | cons f fillers ih =>
      have hnext : fillers.head?.any Filler.isComment ↔
          (fillers.flatMap Filler.text ++ t).head? = some slash := by
        cases fillers with
        | nil => simpa using ht
        | cons g fillers =>
            rw [List.flatMap_cons, List.append_assoc,
              Filler.head?_text_append]
            rfl
      rw [List.flatMap_cons, List.append_assoc] at h
      obtain ⟨middle, rfl, hmiddle⟩ := h.filler hnext
      obtain ⟨rest, rfl, hrest⟩ := ih hmiddle
      refine ⟨rest, ?_, hrest⟩
      rw [spaces, Text.ofRunes_append, List.append_assoc]

theorem word
    {w : Word} {t : Text} (h : Leaves region (w.text ++ t) out) :
    ∃ rest, out = Text.ofRunes (region.keep w.text.runes) ++ rest ∧
      Leaves region t rest := by
  have hnot {c : Char} {b : UInt8} (hc : String.utf8EncodeChar c = [b])
      (hword : (Rune.char c).isWord = false) :
      b ∉ Text.ofRunes w.text.runes := by
    rw [Text.ofRunes_runes]
    exact w.notMem hc hword
  rw [← Text.ofRunes_runes w.text] at h
  exact h.plain
    (hnot rfl (by decide +kernel : (Rune.char '/').isWord = false))
    (hnot rfl (by decide +kernel : (Rune.char '*').isWord = false))
    fun _ => hnot rfl (by decide +kernel : (Rune.char '\n').isWord = false)

/-- The run over the dividers and words of a phrase. -/
theorem others
    {others : List (Divider × Word)}
    (h : Leaves region (others.flatMap fun x => x.1.text ++ x.2.text) out) :
    ∃ rest, out = Text.ofRunes (region.left others) ++ rest ∧
      Leaves (region.last others) [] rest := by
  induction others generalizing region out with
  | nil => exact ⟨out, rfl, h⟩
  | cons x others ih =>
      have hhead :
          (x.2.text ++ others.flatMap fun x => x.1.text ++ x.2.text).head? ≠
            some slash := by
        rw [List.head?_append_of_ne_nil _ x.2.ne_nil]
        exact fun hhead => x.2.slash_notMem (List.mem_of_head? hhead)
      rw [List.flatMap_cons, List.append_assoc] at h
      obtain ⟨_, rfl, hword⟩ := h.fillers hhead
      obtain ⟨_, rfl, hothers⟩ := hword.word
      obtain ⟨rest, rfl, hrest⟩ := ih hothers
      refine ⟨rest, ?_, hrest⟩
      rw [left, Text.ofRunes_append, Text.ofRunes_append]
      simp only [List.append_assoc]

/-- At the end of a script a comment without its end is kept, with its
opening. -/
theorem eq_nil_or_slash_mem
    (h : Leaves region [] out) :
    (region = .text ∧ out = []) ∨ slash ∈ out := by
  have hopen {opened : Text} (hopened : ¬[star, slash] <:+: opened) :
      slash ∈ stripBlocks (slash :: star :: (opened ++ [])) := by
    have hnone :
        Comment.blockLength? (slash :: star :: (opened ++ [])) = none := by
      by_contra hsome
      obtain ⟨n, hn⟩ := Option.ne_none_iff_exists'.mp hsome
      obtain ⟨body, after, heq, -⟩ := Comment.exists_of_blockLength?_eq_some hn
      rw [List.append_nil, List.cons.injEq, List.cons.injEq] at heq
      exact hopened ⟨body, after, by simp [heq.2.2]⟩
    rw [Comment.stripBlocks_cons hnone]
    exact List.mem_cons_self
  cases region with
  | text =>
      obtain ⟨prev, rfl⟩ := h
      exact Or.inl ⟨rfl, rfl⟩
  | line =>
      obtain ⟨prev, opened, hopened, rfl⟩ := h
      exact Or.inr (hopen hopened)
  | block =>
      obtain ⟨prev, opened, hopened, -, rfl⟩ := h
      exact Or.inr (hopen hopened)

end Leaves

end Region

/-! ## What is left of the words -/

theorem Rune.countP_isSolid_eq_zero
    {spaces : List Rune} (h : ∀ r ∈ spaces, r.isSpace) :
    spaces.countP Rune.isSolid = 0 :=
  List.countP_eq_zero.mpr fun r hr => Rune.not_isSolid_of_isSpace (h r hr)

namespace Region

theorem keep_sublist
    (region : Region) (rs : List Rune) :
    (region.keep rs).Sublist rs := by
  cases region with
  | text => exact List.Sublist.refl rs
  | line => exact List.nil_sublist rs
  | block => exact List.nil_sublist rs

theorem isSpace_of_mem_spaces
    {region : Region} {fillers : List Filler} {r : Rune}
    (h : r ∈ region.spaces fillers) :
    r.isSpace := by
  induction fillers generalizing region with
  | nil => simp [spaces] at h
  | cons f fillers ih =>
      rw [spaces, List.mem_append] at h
      rcases h with hkeep | hrest
      · exact f.isSpace_of_mem_runes ((region.keep_sublist _).subset hkeep)
      · exact ih hrest

theorem isWord_or_isSpace_of_mem_left
    {region : Region} {others : List (Divider × Word)} {r : Rune}
    (h : r ∈ region.left others) :
    r.isWord ∨ r.isSpace := by
  induction others generalizing region with
  | nil => simp [left] at h
  | cons x others ih =>
      rw [left, List.mem_append, List.mem_append] at h
      rcases h with hspace | hword | hrest
      · exact Or.inr (isSpace_of_mem_spaces hspace)
      · exact Or.inl (x.2.isProper.2 r ((keep_sublist _ _).subset hword))
      · exact ih hrest

theorem left_eq_flatMap
    {others : List (Divider × Word)}
    (h : ∀ x ∈ others, run .text x.1.fillers = .text) :
    left .text others =
        others.flatMap (fun x => spaces .text x.1.fillers ++ x.2.text.runes) ∧
      last .text others = .text := by
  induction others with
  | nil => exact ⟨rfl, rfl⟩
  | cons x others ih =>
      obtain ⟨hx, hothers⟩ := List.forall_mem_cons.mp h
      obtain ⟨hleft, hlast⟩ := ih hothers
      constructor
      · rw [left, hx, hleft, keep, List.flatMap_cons, List.append_assoc]
      · rw [last, List.foldl_cons, hx]
        exact hlast

theorem countP_isSolid_left_le
    (region : Region) (others : List (Divider × Word)) :
    (region.left others).countP Rune.isSolid ≤
      (others.flatMap fun x => x.2.text.runes).length := by
  induction others generalizing region with
  | nil => exact Nat.le_refl 0
  | cons x others ih =>
      have hspaces : (region.spaces x.1.fillers).countP Rune.isSolid = 0 :=
        Rune.countP_isSolid_eq_zero fun r => isSpace_of_mem_spaces
      have hkeep : ((region.run x.1.fillers).keep x.2.text.runes).countP
          Rune.isSolid ≤ x.2.text.runes.length :=
        List.countP_le_length.trans (keep_sublist _ _).length_le
      have hrest := ih (region.run x.1.fillers)
      rw [left, List.countP_append, List.countP_append, List.flatMap_cons,
        List.length_append]
      omega

/-- If no rune of a word is lost, the scan is in the text before each word. -/
theorem run_eq_text_of_length_le
    {others : List (Divider × Word)}
    (h : (others.flatMap fun x => x.2.text.runes).length ≤
      (left .text others).countP Rune.isSolid) :
    ∀ x ∈ others, run .text x.1.fillers = .text := by
  induction others with
  | nil => simp
  | cons x others ih =>
      have hspaces : (spaces .text x.1.fillers).countP Rune.isSolid = 0 :=
        Rune.countP_isSolid_eq_zero fun r => isSpace_of_mem_spaces
      have hne : 0 < x.2.text.runes.length :=
        List.length_pos_iff.mpr x.2.isProper.1
      rw [left, List.countP_append, List.countP_append, List.flatMap_cons,
        List.length_append] at h
      have hle := countP_isSolid_left_le (run .text x.1.fillers) others
      have hx : run .text x.1.fillers = .text := by
        by_contra hx
        have hkeep : (run .text x.1.fillers).keep x.2.text.runes = [] := by
          cases hregion : run .text x.1.fillers with
          | text => exact absurd hregion hx
          | line => rfl
          | block => rfl
        rw [hkeep, List.countP_nil] at h
        omega
      have hword : x.2.text.runes.countP Rune.isSolid ≤ x.2.text.runes.length :=
        List.countP_le_length
      rw [hx, keep] at h
      refine List.forall_mem_cons.mpr ⟨hx, ih ?_⟩
      omega

end Region

theorem Text.slash_notMem_ofRunes
    {rs : List Rune} (h : ∀ r ∈ rs, r.isWord ∨ r.isSpace) :
    slash ∉ ofRunes rs := by
  intro hmem
  obtain ⟨r, hr, hslash⟩ := List.mem_flatMap.mp hmem
  rcases h r hr with hword | hspace
  · have hchar : r = .char '/' :=
      Rune.eq_char_of_mem_bytes (fun _ => rfl) rfl hword hslash
    rw [hchar] at hword
    revert hword
    decide +kernel
  · exact Filler.slash_notMem_bytes hspace hslash

namespace Phrase

theorem countP_isSolid_bareWith
    {kept : Divider → List Rune} (hkept : ∀ d, ∀ r ∈ kept d, r.isSpace)
    (p : Phrase) :
    (p.bareWith kept).countP Rune.isSolid =
      p.first.text.runes.length +
        (p.others.flatMap fun x => x.2.text.runes).length := by
  obtain ⟨w, others⟩ := p
  have hword (w : Word) :
      w.text.runes.countP Rune.isSolid = w.text.runes.length :=
    List.countP_eq_length.mpr
      fun r hr => Rune.isSolid_of_isWord (w.isProper.2 r hr)
  induction others generalizing w with
  | nil => simp [bareWith, hword]
  | cons x others ih =>
      rw [bareWith_cons, List.countP_append, List.countP_append, ih x.2,
        Rune.countP_isSolid_eq_zero (hkept x.1), hword, List.flatMap_cons,
        List.length_append, Nat.zero_add]

theorem exists_stripBlocks_stripLines_source
    (p : Phrase) :
    ∃ rest, stripBlocks (stripLines p.source) =
        Text.ofRunes (p.first.text.runes ++ Region.left .text p.others) ++ rest ∧
      Region.Leaves (Region.last .text p.others) [] rest := by
  have hsource : Region.Leaves .text p.source
      (stripBlocks (stripLines p.source)) :=
    ⟨none, rfl⟩
  obtain ⟨_, hfirst, hword⟩ := hsource.word
  obtain ⟨rest, rfl, hrest⟩ := hword.others
  refine ⟨rest, ?_, hrest⟩
  rw [hfirst, Region.keep, Text.ofRunes_append, List.append_assoc]

/-- While the scan is in the text before each word, all words are left. -/
theorem stripBlocks_stripLines_source
    {p : Phrase} (h : ∀ x ∈ p.others, Region.run .text x.1.fillers = .text) :
    stripBlocks (stripLines p.source) =
      Text.ofRunes (p.bareWith fun d => Region.spaces .text d.fillers) := by
  obtain ⟨hleft, hlast⟩ := Region.left_eq_flatMap h
  obtain ⟨rest, hstrip, hrest⟩ := p.exists_stripBlocks_stripLines_source
  rw [hlast] at hrest
  obtain ⟨prev, rfl⟩ := hrest
  rw [hstrip, hleft]
  exact List.append_nil _

theorem spaced_eq_ofRunes
    (p : Phrase) :
    p.spaced = Text.ofRunes (p.bareWith fun _ => [.blank]) := by
  obtain ⟨w, others⟩ := p
  induction others generalizing w with
  | nil =>
      rw [bareWith, List.flatMap_nil, List.append_nil, Text.ofRunes_runes]
      rfl
  | cons x others ih =>
      rw [bareWith_cons, Text.ofRunes_append, Text.ofRunes_append, ← ih,
        Text.ofRunes_runes, spaced_cons, List.append_assoc]
      rfl

/-- The words of a minified script are all there only if the scan is in the
text before each of them. -/
theorem run_eq_text_of_minify_source
    {p : Phrase} (h : Script.minify p.source = p.spaced) :
    ∀ x ∈ p.others, Region.run .text x.1.fillers = .text := by
  have hblank : ∀ _ : Divider, ∀ r ∈ [Rune.blank], r.isSpace := by
    intro _ r hr
    rw [List.mem_singleton.mp hr]
    exact Rune.isSpace_blank
  have hspaced : ∀ r ∈ p.bareWith (fun _ => [.blank]),
      r.isWord ∨ r.isSpace :=
    p.first.isWord_or_isSpace_of_mem
      fun r => isWord_or_isSpace_of_mem_others hblank
  have hleft : ∀ r ∈ p.first.text.runes ++ Region.left .text p.others,
      r.isWord ∨ r.isSpace :=
    p.first.isWord_or_isSpace_of_mem
      fun r => Region.isWord_or_isSpace_of_mem_left
  rw [spaced_eq_ofRunes] at h
  obtain ⟨rest, hstrip, hrest⟩ := p.exists_stripBlocks_stripLines_source
  -- A comment without its end would keep its slash.
  have hslash : slash ∉ rest := by
    have hcount := Script.count_slash_minify p.source
    rw [h, hstrip, List.count_append,
      List.count_eq_zero_of_not_mem (Text.slash_notMem_ofRunes hspaced),
      List.count_eq_zero_of_not_mem (Text.slash_notMem_ofRunes hleft),
      Nat.zero_add] at hcount
    exact List.count_eq_zero.mp hcount.symm
  obtain ⟨-, rfl⟩ := hrest.eq_nil_or_slash_mem.resolve_right hslash
  -- So the solid runes that are left are all there is of the words.
  have hsolid := congrArg List.length (Script.laidOut_minify p.source).solid
  rw [h, hstrip, List.append_nil, Text.legible_of_isWord_or_isSpace hspaced,
    Text.legible_of_isWord_or_isSpace hleft, ← List.countP_eq_length_filter,
    ← List.countP_eq_length_filter, countP_isSolid_bareWith hblank,
    List.countP_append] at hsolid
  have hfirst : p.first.text.runes.countP Rune.isSolid ≤
      p.first.text.runes.length :=
    List.countP_le_length
  apply Region.run_eq_text_of_length_le
  omega

/-- In a script the words stay apart if and only if each divider keeps some
white space and ends in the text. -/
theorem script_minify_source_iff
    (p : Phrase) :
    Script.minify p.source = p.spaced ↔ ∀ x ∈ p.others, x.1.KeepsSpace := by
  by_cases hrun : ∀ x ∈ p.others, Region.run .text x.1.fillers = .text
  · have hspaces : ∀ d : Divider, ∀ r ∈ Region.spaces .text d.fillers,
        r.isSpace :=
      fun d r => Region.isSpace_of_mem_spaces
    rw [Word.script_minify_eq
      (fun r => isWord_or_isSpace_of_mem_others hspaces)
      (stripBlocks_stripLines_source hrun)]
    refine (ofRunes_write_bareWith_eq_iff hspaces p false).trans ?_
    exact forall₂_congr fun x hx => (and_iff_right (hrun x hx)).symm
  · refine iff_of_false (fun h => hrun ?_) fun h => hrun ?_
    · exact run_eq_text_of_minify_source h
    · exact fun x hx => (h x hx).1

end Phrase

theorem Region.run_of_isChain
    {fillers : List Filler}
    (h : fillers.IsChain fun f g => ¬(f.isComment ∧ g.isComment)) :
    run .text fillers = .text ∧
      spaces .text fillers = fillers.flatMap Filler.runes := by
  induction fillers with
  | nil => exact ⟨rfl, rfl⟩
  | cons f fillers ih =>
      have hstep :
          step (fillers.head?.any Filler.isComment) .text f = .text := by
        cases f with
        | space r hr => rfl
        | comment body hbody =>
            cases fillers with
            | nil => rfl
            | cons g fillers =>
                have hg : g.isComment = false := by
                  simpa [Filler.isComment] using (List.isChain_cons_cons.mp h).1
                simp [step, atEnd, hg]
      obtain ⟨hrun, hspaces⟩ := ih h.of_cons
      rw [run, spaces, hstep, hrun, hspaces, List.flatMap_cons]
      exact ⟨rfl, rfl⟩

theorem Divider.CommentsApart.keepsSpace_iff
    {d : Divider} (h : d.CommentsApart) :
    d.KeepsSpace ↔ d.HasSpace := by
  obtain ⟨hrun, hspaces⟩ := Region.run_of_isChain h
  rw [KeepsSpace, hrun, hspaces, ← spaces_ne_nil_iff, spaces]
  exact and_iff_right rfl

namespace Phrase

/-- Exactly when the words of a phrase end up with one blank between each two of
them: in a stylesheet if each divider has white space, and in a script if each
divider keeps some.  This is the same where no comment directly follows another
one. -/
theorem minify_source_eq_spaced_iff
    (p : Phrase) :
    (Stylesheet.minify p.source = p.spaced ↔
      ∀ x ∈ p.others, x.1.HasSpace) ∧
    (Script.minify p.source = p.spaced ↔
      ∀ x ∈ p.others, x.1.KeepsSpace) ∧
    ((∀ x ∈ p.others, x.1.CommentsApart) →
      (Script.minify p.source = p.spaced ↔
        ∀ x ∈ p.others, x.1.HasSpace)) := by
  refine ⟨p.stylesheet_minify_source_iff, p.script_minify_source_iff, ?_⟩
  intro happart
  rw [p.script_minify_source_iff]
  exact forall₂_congr fun x hx => (happart x hx).keepsSpace_iff

/-- Two words with a divider between them. -/
def between (d : Divider) : Phrase where
  first := ⟨"a", by decide +kernel⟩
  others := [(d, ⟨"b", by decide +kernel⟩)]

/-- Two comments in a row, with a line break in the second one. -/
def spanned : Phrase :=
  between ⟨[.space .blank Rune.isSpace_blank, .comment "x" (by decide),
    .comment "\n" (by decide), .space .blank Rune.isSpace_blank], by simp⟩

/-- Two comments in a row, and a third one on the next line. -/
def resumed : Phrase :=
  between ⟨[.space .blank Rune.isSpace_blank, .comment "x" (by decide),
    .comment "y" (by decide), .space (.char '\n') (by decide),
    .comment "z" (by decide), .space .blank Rune.isSpace_blank], by simp⟩

theorem minify_source_eq_spaced_iff_overlapping :
    (spanned.source = Text.ofString "a /*x*//*\n*/ b" ∧
      Stylesheet.minify spanned.source = Text.ofString "a b" ∧
      Script.minify spanned.source = Text.ofString "a b") ∧
    (resumed.source = Text.ofString "a /*x*//*y*/\n/*z*/ b" ∧
      Script.minify resumed.source = Text.ofString "a b") := by
  have hspace : ∀ x ∈ spanned.others, x.1.HasSpace := by
    simp [spanned, between, Divider.HasSpace, Filler.isComment]
  have hspanned : ∀ x ∈ spanned.others, x.1.KeepsSpace := by
    decide
  have hresumed : ∀ x ∈ resumed.others, x.1.KeepsSpace := by
    decide
  obtain ⟨hstylesheet, hscript, -⟩ := minify_source_eq_spaced_iff spanned
  have hlater := (minify_source_eq_spaced_iff resumed).2.1
  exact ⟨⟨by decide, hstylesheet.mpr hspace, hscript.mpr hspanned⟩,
    by decide, hlater.mpr hresumed⟩

/-- Two words with a comment between them and no white space. -/
def glued : Phrase where
  first := ⟨"return", by decide +kernel⟩
  others := [(⟨[.comment [] (by decide)], by simp⟩, ⟨"x", by decide +kernel⟩)]

/-- White space between two words, and two comments in a row. -/
def cut : Phrase :=
  between ⟨[.space .blank Rune.isSpace_blank, .comment [] (by decide),
    .comment [] (by decide), .space .blank Rune.isSpace_blank], by simp⟩

/-- A comment alone does not keep words apart, and in a script two comments in
a row lose what follows them. -/
theorem minify_source_ne_spaced :
    (glued.source = Text.ofString "return/**/x" ∧
      glued.spaced = Text.ofString "return x" ∧
      Script.minify glued.source = Text.ofString "returnx" ∧
      Stylesheet.minify glued.source = Text.ofString "returnx") ∧
    (cut.source = Text.ofString "a /**//**/ b" ∧
      cut.spaced = Text.ofString "a b" ∧
      Script.minify cut.source = Text.ofString "a/**") ∧
    ¬∀ p : Phrase, Script.minify p.source = p.spaced ∧
      Stylesheet.minify p.source = p.spaced := by
  have hglued : Script.minify glued.source = Text.ofString "returnx" := by
    decide +kernel
  have hspaced : glued.spaced = Text.ofString "return x" := by
    decide
  refine ⟨⟨by decide, hspaced, hglued, by decide +kernel⟩,
    ⟨by decide, by decide, by decide +kernel⟩, fun hall => ?_⟩
  have hscript := (hall glued).1
  rw [hglued, hspaced] at hscript
  exact absurd hscript (by decide)

end Phrase

end AssetMinifier
