import AssetMinifier.Proofs.Minify.Script
import AssetMinifier.Proofs.Minify.Seam
import AssetMinifier.Proofs.Minify.Stylesheet

/-!
# Words kept apart

A phrase is a list of words with white space and comments between them.  Once
the comments are removed, both minifiers leave one blank where white space was,
so words that white space separates stay apart, and words with nothing but
comments between them do not.
-/

namespace AssetMinifier

open Comment (slash star)
open Layout (Cell cells cellsFrom write respace separator opensLast tightGap)

/-- A word has at least one rune, and word runes only. -/
structure Word where
  text : Text
  isProper : Keyword.IsProper text.runes

/-- What may stand between two words: a white space rune, or a complete block
comment whose body has no slash. -/
inductive Filler where
  | space (r : Rune) (isSpace : r.isSpace)
  | comment (body : Text) (slash_notMem : slash ∉ body)

namespace Filler

/-- The bytes of a filler. -/
def text : Filler → Text
  | space r _ => r.bytes
  | comment body _ => slash :: star :: (body ++ [star, slash])

/-- Whether a filler is a comment. -/
def isComment : Filler → Bool
  | space _ _ => false
  | comment _ _ => true

/-- What is left of a filler once comments are removed. -/
def runes : Filler → List Rune
  | space r _ => [r]
  | comment _ _ => []

end Filler

/-- What stands between two words. -/
structure Divider where
  fillers : List Filler
  ne_nil : fillers ≠ []

namespace Divider

/-- The bytes of a divider. -/
def text (d : Divider) : Text :=
  d.fillers.flatMap Filler.text

/-- The white space of a divider. -/
def spaces (d : Divider) : List Rune :=
  d.fillers.flatMap Filler.runes

/-- A divider has white space, not only comments. -/
def HasSpace (d : Divider) : Prop :=
  ∃ f ∈ d.fillers, f.isComment = false

end Divider

/-- Words, each but the first behind a divider. -/
structure Phrase where
  first : Word
  others : List (Divider × Word)

namespace Phrase

/-- The text of a phrase. -/
def source (p : Phrase) : Text :=
  p.first.text ++ p.others.flatMap fun x => x.1.text ++ x.2.text

/-- The words of a phrase with one blank between each two of them. -/
def spaced (p : Phrase) : Text :=
  Text.join [0x20] (p.first.text :: p.others.map fun x => x.2.text)

end Phrase

/-! ## Bytes of words and of white space -/

/-- In the runes of a class without stray bytes, the byte of a character occurs
in that character alone. -/
theorem Rune.eq_char_of_mem_bytes
    {p : Rune → Bool} (hstray : ∀ b, p (.stray b) = false)
    {c : Char} {b : UInt8} (hc : String.utf8EncodeChar c = [b])
    {r : Rune} (hr : p r) (hmem : b ∈ r.bytes) :
    r = .char c := by
  cases r with
  | stray x =>
      rw [hstray] at hr
      cases hr
  | char d => rw [(Text.mem_utf8EncodeChar_iff_of_singleton hc).mp hmem]

namespace Word

theorem notMem
    {c : Char} {b : UInt8} (hc : String.utf8EncodeChar c = [b])
    (hnot : (Rune.char c).isWord = false) (w : Word) :
    b ∉ w.text := by
  rw [← Text.ofRunes_runes w.text]
  intro hmem
  obtain ⟨r, hr, hb⟩ := List.mem_flatMap.mp hmem
  have hword := w.isProper.2 r hr
  rw [Rune.eq_char_of_mem_bytes (fun _ => rfl) hc hword hb, hnot] at hword
  cases hword

theorem slash_notMem
    (w : Word) :
    slash ∉ w.text :=
  notMem rfl (by decide +kernel : (Rune.char '/').isWord = false) w

theorem ne_nil
    (w : Word) :
    w.text ≠ [] := by
  intro hnil
  exact w.isProper.1 (by rw [hnil]; rfl)

end Word

theorem Filler.notMem_bytes
    {c : Char} {b : UInt8} (hc : String.utf8EncodeChar c = [b])
    (hnot : (Rune.char c).isSpace = false) {r : Rune} (hr : r.isSpace) :
    b ∉ r.bytes := by
  intro hmem
  rw [Rune.eq_char_of_mem_bytes (fun _ => rfl) hc hr hmem, hnot] at hr
  cases hr

theorem Filler.slash_notMem_bytes
    {r : Rune} (hr : r.isSpace) :
    slash ∉ r.bytes :=
  notMem_bytes rfl (by decide : (Rune.char '/').isSpace = false) hr

/-! ## The text without its comments -/

theorem Filler.stripBlocks_append
    (f : Filler) (t : Text) :
    Comment.stripBlocks (f.text ++ t) =
      Text.ofRunes f.runes ++ Comment.stripBlocks t := by
  cases f with
  | space r hr =>
      have hbytes : Text.ofRunes [r] = r.bytes := by
        simp [Text.ofRunes]
      rw [text, runes, hbytes]
      exact Comment.stripBlocks_append_of_notMem (slash_notMem_bytes hr) t
  | comment body hbody =>
      have hend : ¬[star, slash] <:+: body := by
        intro hpair
        exact hbody (hpair.subset (by simp))
      have htext : slash :: star :: (body ++ [star, slash]) ++ t =
          slash :: star :: (body ++ star :: slash :: t) := by
        simp
      rw [text, htext, Comment.stripBlocks_block hend]
      rfl

theorem Divider.stripBlocks_append
    (d : Divider) (t : Text) :
    Comment.stripBlocks (d.text ++ t) =
      Text.ofRunes d.spaces ++ Comment.stripBlocks t := by
  rw [text, spaces]
  induction d.fillers with
  | nil => rfl
  | cons f fillers ih =>
      rw [List.flatMap_cons, List.flatMap_cons, List.append_assoc,
        f.stripBlocks_append, ih]
      rw [Text.ofRunes_append, List.append_assoc]

namespace Phrase

/-- The runes of a phrase with others in place of each divider. -/
def bareWith (kept : Divider → List Rune) (p : Phrase) : List Rune :=
  p.first.text.runes ++
    p.others.flatMap fun x => kept x.1 ++ x.2.text.runes

theorem stripBlocks_source
    (p : Phrase) :
    Comment.stripBlocks p.source =
      Text.ofRunes (p.bareWith Divider.spaces) := by
  have hothers : ∀ others : List (Divider × Word),
      Comment.stripBlocks (others.flatMap fun x => x.1.text ++ x.2.text) =
        Text.ofRunes
          (others.flatMap fun x => x.1.spaces ++ x.2.text.runes) := by
    intro others
    induction others with
    | nil => rfl
    | cons x others ih =>
        rw [List.flatMap_cons, List.flatMap_cons, List.append_assoc,
          x.1.stripBlocks_append,
          Comment.stripBlocks_append_of_notMem x.2.slash_notMem, ih,
          Text.ofRunes_append, Text.ofRunes_append, Text.ofRunes_runes,
          List.append_assoc]
  rw [source, Comment.stripBlocks_append_of_notMem p.first.slash_notMem,
    hothers, bareWith, Text.ofRunes_append, Text.ofRunes_runes]

end Phrase

/-! ## One blank for each divider -/

theorem Text.legible_of_isWord_or_isSpace
    {rs : List Rune} (h : ∀ r ∈ rs, r.isWord ∨ r.isSpace) :
    Legible rs := by
  apply legible_of_isSome_char?
  intro r hr
  cases r with
  | stray b => simpa [Rune.isWord, Rune.isSpace] using h _ hr
  | char c => rfl

theorem Rune.isSolid_of_isWord
    {r : Rune} (h : r.isWord) :
    r.isSolid := by
  by_contra hsolid
  have hspace := Rune.isSpace_of_not_isSolid hsolid
  rw [Rune.isWord_eq_false_of_isSpace hspace] at h
  exact absurd h Bool.false_ne_true

namespace Layout

theorem write_cellsFrom_solid
    {rs : List Rune} (h : ∀ r ∈ rs, r.isSolid) (qs : List Rune) :
    write (cellsFrom false (rs ++ qs)) = rs ++ write (cellsFrom false qs) := by
  induction rs with
  | nil => rfl
  | cons r rs ih =>
      rw [List.cons_append,
        cellsFrom_solid_cons false (h r List.mem_cons_self), write_cons,
        ih fun q hq => h q (List.mem_cons_of_mem r hq)]
      rfl

theorem write_cellsFrom_word
    (gap : Bool) {rs : List Rune} (hne : rs ≠ []) (h : ∀ r ∈ rs, r.isSolid)
    (qs : List Rune) :
    write (cellsFrom gap (rs ++ qs)) =
      separator gap ++ (rs ++ write (cellsFrom false qs)) := by
  obtain ⟨r, rest, rfl⟩ := List.exists_cons_of_ne_nil hne
  rw [List.cons_append, cellsFrom_solid_cons gap (h r List.mem_cons_self),
    write_cons,
    write_cellsFrom_solid fun q hq => h q (List.mem_cons_of_mem r hq),
    List.cons_append]

theorem cellsFrom_space_append
    (gap : Bool) {spaces : List Rune} (hne : spaces ≠ [])
    (h : ∀ r ∈ spaces, r.isSpace) (qs : List Rune) :
    cellsFrom gap (spaces ++ qs) = cellsFrom true qs := by
  have hgap : gapAfter gap spaces = true := by
    rw [gapAfter, List.getLast?_eq_some_getLast hne, Option.map_some,
      Option.getD_some]
    exact h _ (List.getLast_mem hne)
  rw [cellsFrom_append, cellsFrom_of_isSpace gap h, hgap, List.nil_append]

end Layout

theorem Filler.isSpace_of_mem_runes
    {f : Filler} {r : Rune} (h : r ∈ f.runes) :
    r.isSpace := by
  cases f with
  | space q hq =>
      rw [List.mem_singleton.mp h]
      exact hq
  | comment body hbody => simp [runes] at h

namespace Divider

theorem isSpace_of_mem_spaces
    {d : Divider} {r : Rune} (h : r ∈ d.spaces) :
    r.isSpace := by
  obtain ⟨f, -, hr⟩ := List.mem_flatMap.mp h
  exact f.isSpace_of_mem_runes hr

theorem spaces_ne_nil_iff
    {d : Divider} :
    d.spaces ≠ [] ↔ d.HasSpace := by
  have hrunes : ∀ f : Filler, f.runes = [] ↔ f.isComment := by
    intro f
    cases f with
    | space r hr => simp [Filler.runes, Filler.isComment]
    | comment body hbody => simp [Filler.runes, Filler.isComment]
  simp [spaces, HasSpace, hrunes]

end Divider

namespace Phrase

variable {kept : Divider → List Rune}

theorem bareWith_cons
    (w : Word) (x : Divider × Word) (others : List (Divider × Word)) :
    bareWith kept ⟨w, x :: others⟩ =
      w.text.runes ++ (kept x.1 ++ bareWith kept ⟨x.2, others⟩) := by
  simp [bareWith]

theorem spaced_cons
    (w : Word) (x : Divider × Word) (others : List (Divider × Word)) :
    spaced ⟨w, x :: others⟩ = w.text ++ [0x20] ++ spaced ⟨x.2, others⟩ :=
  rfl

theorem isWord_or_isSpace_of_mem_others
    (hkept : ∀ d, ∀ r ∈ kept d, r.isSpace) {others : List (Divider × Word)}
    {r : Rune} (h : r ∈ others.flatMap fun x => kept x.1 ++ x.2.text.runes) :
    r.isWord ∨ r.isSpace := by
  obtain ⟨x, -, hr⟩ := List.mem_flatMap.mp h
  rcases List.mem_append.mp hr with hspace | hword
  · exact Or.inr (hkept x.1 r hspace)
  · exact Or.inl (x.2.isProper.2 r hword)

/-- Collapsing white space leaves one blank for each divider if and only if
something is left of each divider. -/
theorem ofRunes_write_bareWith_eq_iff
    (hkept : ∀ d, ∀ r ∈ kept d, r.isSpace) (p : Phrase) (gap : Bool) :
    Text.ofRunes (write (cellsFrom gap (p.bareWith kept))) =
        Text.ofRunes (separator gap) ++ p.spaced ↔
      ∀ x ∈ p.others, kept x.1 ≠ [] := by
  obtain ⟨w, others⟩ := p
  have hsolid (w : Word) : ∀ r ∈ w.text.runes, r.isSolid :=
    fun r hr => Rune.isSolid_of_isWord (w.isProper.2 r hr)
  have hwrite (gap : Bool) (w : Word) (rs : List Rune) :
      Text.ofRunes (write (cellsFrom gap (w.text.runes ++ rs))) =
        Text.ofRunes (separator gap) ++
          (w.text ++ Text.ofRunes (write (cellsFrom false rs))) := by
    rw [Layout.write_cellsFrom_word gap w.isProper.1 (hsolid w),
      Text.ofRunes_append, Text.ofRunes_append, Text.ofRunes_runes]
  induction others generalizing w gap with
  | nil =>
      have hbare : bareWith kept ⟨w, []⟩ = w.text.runes ++ [] := rfl
      have hspaced : spaced ⟨w, []⟩ = w.text ++ [] := (List.append_nil _).symm
      have hnil : Text.ofRunes (write (cellsFrom false [])) = [] := rfl
      rw [hbare, hwrite, hspaced, hnil]
      simp
  | cons x others ih =>
      rw [bareWith_cons, hwrite, spaced_cons, List.append_assoc,
        List.append_cancel_left_eq, List.append_cancel_left_eq,
        List.forall_mem_cons]
      by_cases hx : kept x.1 = []
      · -- The next word follows directly, and no word starts with a blank.
        have hblank : (0x20 : UInt8) ∉ x.2.text :=
          x.2.notMem rfl (by decide +kernel : (Rune.char ' ').isWord = false)
        refine iff_of_false (fun heq => ?_) fun h => h.1 hx
        rw [hx, List.nil_append, bareWith, hwrite] at heq
        have hhead := congrArg List.head? heq
        have hnil : Text.ofRunes (separator false) = [] := rfl
        rw [hnil, List.nil_append, List.head?_append_of_ne_nil _ x.2.ne_nil]
          at hhead
        exact hblank (List.mem_of_head? hhead)
      · have hblank : Text.ofRunes (separator true) = [0x20] := by
          decide
        rw [Layout.cellsFrom_space_append false hx (hkept x.1), ← hblank]
        exact (ih true x.2).trans (and_iff_right hx).symm

end Phrase

/-! ## Gaps between words -/

theorem Layout.respace_words
    {f : List Cell → Cell → Bool} (hfirst : ∀ c, f [] c = false)
    (hgap : ∀ a past c, a.rune.isWord → c.rune.isWord →
      f (a :: past) c = c.gap)
    {cs : List Cell} (hwords : ∀ c ∈ cs, c.rune.isWord)
    (hhead : ∀ c ∈ cs.head?, c.gap = false) :
    respace f [] cs = cs := by
  have hlater : ∀ {ds : List Cell} {a : Cell} (past : List Cell),
      a.rune.isWord → (∀ c ∈ ds, c.rune.isWord) →
      respace f (a :: past) ds = ds := by
    intro ds
    induction ds with
    | nil =>
        intro a past _ _
        rfl
    | cons d ds ih =>
        intro a past ha hds
        have hd := hds d List.mem_cons_self
        rw [respace, hgap a past d ha hd, Cell.withGap_self,
          ih (a :: past) hd fun c hc => hds c (List.mem_cons_of_mem d hc)]
  cases cs with
  | nil => rfl
  | cons c cs =>
      have hc : f [] c = c.gap := by
        rw [hfirst, hhead c rfl]
      rw [respace, hc, Cell.withGap_self,
        hlater [] (hwords c List.mem_cons_self)
          fun d hd => hwords d (List.mem_cons_of_mem c hd)]

theorem Spacing.oneOf_eq_false_of_isWord
    {s : String} (hs : s.toList.all fun c => !(Rune.char c).isWord)
    {r : Rune} (hr : r.isWord) :
    oneOf s r = false := by
  rw [oneOf, List.any_eq_false]
  intro c hc hchar
  have hword := List.all_eq_true.mp hs c hc
  rw [decide_eq_true_eq] at hchar
  rw [hchar] at hr
  simp [hr] at hword

theorem Script.finalGap_of_isWord
    {a : Cell} (past : List Cell) {c : Cell}
    (ha : a.rune.isWord) (hc : c.rune.isWord) :
    finalGap (a :: past) c = c.gap := by
  have hoperator : ∀ {r : Rune}, r.isWord →
      Spacing.oneOf operators r = false :=
    Spacing.oneOf_eq_false_of_isWord all_not_isWord_operators
  simp [finalGap, keywordGap, operatorGap, tightGap, opensLast,
    Rune.isBoundary, hoperator ha, hoperator hc, hc]

theorem Stylesheet.finalGap_of_isWord
    {a : Cell} (past : List Cell) {c : Cell}
    (ha : a.rune.isWord) (hc : c.rune.isWord) :
    finalGap (a :: past) c = c.gap := by
  have hpunctuation : ∀ {r : Rune}, r.isWord →
      Spacing.oneOf punctuation r = false :=
    Spacing.oneOf_eq_false_of_isWord (by decide +kernel)
  have hopening : Spacing.oneOf "(" a.rune = false :=
    Spacing.oneOf_eq_false_of_isWord (by decide +kernel) ha
  have hclosing : Spacing.oneOf ")" c.rune = false :=
    Spacing.oneOf_eq_false_of_isWord (by decide +kernel) hc
  simp [finalGap, punctuationGap, tightGap, opensLast, opens, closes,
    hpunctuation ha, hpunctuation hc, hopening, hclosing]

theorem Stylesheet.dropClosing_of_notMem
    {rs : List Rune} (h : Rune.char ';' ∉ rs) :
    dropClosing rs = rs := by
  induction rs with
  | nil => rfl
  | cons r rs ih =>
      have hkeep : ¬(r = .char ';' ∧ endsBlock rs) := by
        rintro ⟨rfl, -⟩
        exact h List.mem_cons_self
      rw [dropClosing_cons hkeep,
        ih fun hmem => h (List.mem_cons_of_mem r hmem)]

theorem Layout.isWord_of_mem_cells
    {rs : List Rune} (h : ∀ r ∈ rs, r.isWord ∨ r.isSpace) {c : Cell}
    (hc : c ∈ cells rs) :
    c.rune.isWord := by
  have hmem : c.rune ∈ rs.filter Rune.isSolid := by
    rw [← Layout.map_rune_cellsFrom false]
    exact List.mem_map_of_mem hc
  obtain ⟨hrune, hsolid⟩ := List.mem_filter.mp hmem
  rcases h _ hrune with hword | hspace
  · exact hword
  · exact absurd hsolid (Rune.not_isSolid_of_isSpace hspace)

namespace Word

variable {w : Word} {rs : List Rune}

theorem isWord_or_isSpace_of_mem
    (w : Word) (hrs : ∀ r ∈ rs, r.isWord ∨ r.isSpace) :
    ∀ r ∈ w.text.runes ++ rs, r.isWord ∨ r.isSpace := by
  intro r hr
  rcases List.mem_append.mp hr with hr | hr
  · exact Or.inl (w.isProper.2 r hr)
  · exact hrs r hr

theorem gap_of_mem_head?_cells
    {c : Cell} (h : c ∈ (cells (w.text.runes ++ rs)).head?) :
    c.gap = false := by
  obtain ⟨r, rest, hrunes⟩ :=
    List.exists_cons_of_ne_nil w.isProper.1
  have hsolid : r.isSolid :=
    Rune.isSolid_of_isWord (w.isProper.2 r (by simp [hrunes]))
  rw [hrunes, List.cons_append, cells,
    Layout.cellsFrom_solid_cons false hsolid] at h
  rw [← Option.some.inj h]

/-- A stylesheet that is words and white space, but for comments, has its white
space collapsed. -/
theorem stylesheet_minify_eq
    (hrs : ∀ r ∈ rs, r.isWord ∨ r.isSpace) {s : Text}
    (hs : Comment.stripBlocks s = Text.ofRunes (w.text.runes ++ rs)) :
    Stylesheet.minify s = Text.ofRunes (write (cells (w.text.runes ++ rs))) := by
  have hclass := w.isWord_or_isSpace_of_mem hrs
  have hsemicolon : Rune.char ';' ∉ w.text.runes ++ rs := by
    intro hmem
    have hsemicolon := hclass _ hmem
    revert hsemicolon
    decide +kernel
  rw [← Text.ofRunes_runes (Stylesheet.minify s), Stylesheet.runes_minify, hs,
    Text.legible_of_isWord_or_isSpace hclass,
    Stylesheet.dropClosing_of_notMem hsemicolon,
    Layout.respace_words (fun _ => rfl)
      (fun _ past _ => Stylesheet.finalGap_of_isWord past)
      (fun _ => Layout.isWord_of_mem_cells hclass)
      (fun _ => gap_of_mem_head?_cells)]

/-- So has such a script. -/
theorem script_minify_eq
    (hrs : ∀ r ∈ rs, r.isWord ∨ r.isSpace) {s : Text}
    (hs : Comment.stripBlocks (Comment.stripLines s) =
      Text.ofRunes (w.text.runes ++ rs)) :
    Script.minify s = Text.ofRunes (write (cells (w.text.runes ++ rs))) := by
  have hclass := w.isWord_or_isSpace_of_mem hrs
  rw [← Text.ofRunes_runes (Script.minify s), Script.runes_minify, hs,
    Text.legible_of_isWord_or_isSpace hclass,
    Layout.respace_words (fun _ => rfl)
      (fun _ past _ => Script.finalGap_of_isWord past)
      (fun _ => Layout.isWord_of_mem_cells hclass)
      (fun _ => gap_of_mem_head?_cells)]

end Word

/-- In a stylesheet the words stay apart if and only if there is white space
between each two of them. -/
theorem Phrase.stylesheet_minify_source_iff
    (p : Phrase) :
    Stylesheet.minify p.source = p.spaced ↔ ∀ x ∈ p.others, x.1.HasSpace := by
  have hspaces : ∀ d : Divider, ∀ r ∈ d.spaces, r.isSpace :=
    fun d r => Divider.isSpace_of_mem_spaces
  rw [Word.stylesheet_minify_eq
    (fun r => isWord_or_isSpace_of_mem_others hspaces) p.stripBlocks_source]
  refine (ofRunes_write_bareWith_eq_iff hspaces p false).trans ?_
  simp only [Divider.spaces_ne_nil_iff]

end AssetMinifier
