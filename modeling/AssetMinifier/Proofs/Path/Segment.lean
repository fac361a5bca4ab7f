import AssetMinifier.Proofs.Path.Glob
import AssetMinifier.Proofs.Text.Split
import Mathlib.Data.List.Forall2

/-!
# Globs segment by segment

A plain glob matches a path if and only if its segments match those of the path
one by one.  A segment without a star and `?` matches itself alone, and every
segment matches some name, of which a sample is given.
-/

namespace AssetMinifier

namespace Glob

open AssetMinifier.Path (separator)

/-! ## Segments of a glob -/

theorem isPlain_pieceOf
    (b : UInt8) :
    (pieceOf b).IsPlain := by
  rw [pieceOf]
  split <;> trivial

theorem pieceOf_eq_byte_separator_iff
    {b : UInt8} :
    pieceOf b = .byte separator ↔ b = separator := by
  rw [pieceOf]
  split
  · rename_i hb
    simp [hb, question, separator]
  · simp

/-- A plain glob has as many slashes as what it matches. -/
theorem count_of_matchesName
    {pattern name : Text} (h : IsPlain pattern)
    (hmatch : matchesName pattern name = true) :
    name.count separator = pattern.count separator := by
  rw [matchesName_of_isPlain h] at hmatch
  have hpieces := flatMap_pieces_chunksOf pattern
  have hplain : ∀ piece ∈ (chunksOf pattern).flatMap Chunk.pieces,
      piece.IsPlain := by
    intro piece hmem
    rw [hpieces] at hmem
    obtain ⟨b, -, rfl⟩ := List.mem_map.mp hmem
    exact isPlain_pieceOf b
  rw [count_of_matchChunks (tidy_chunksOf pattern) hplain hmatch, hpieces,
    List.count, List.count, List.countP_map, List.countP_filter]
  apply List.countP_congr
  intro b _
  have hstar : separator ≠ star := by decide
  simp only [Function.comp_apply, Bool.and_eq_true, beq_iff_eq,
    pieceOf_eq_byte_separator_iff, decide_eq_true_eq]
  constructor
  · exact fun hb => hb.1
  · exact fun hb => ⟨hb, hb ▸ hstar⟩

/-- Behind a slash, glob and name are matched anew. -/
theorem matchesName_append_separator
    {glob pattern name : Text} (hglob : IsPlain glob) (hpattern : IsPlain pattern)
    (hlocal : separator ∉ glob) (hname : separator ∉ name) (t : Text) :
    matchesName (glob ++ separator :: pattern) (name ++ separator :: t) =
      (matchesName glob name && matchesName pattern t) := by
  have hplain : IsPlain (glob ++ separator :: pattern) := by
    intro b hb
    rcases List.mem_append.mp hb with hb | hb
    · exact hglob b hb
    · rcases List.mem_cons.mp hb with rfl | hb
      · decide
      · exact hpattern b hb
  obtain ⟨more, later, hpiece, hmore⟩ := exists_addPiece_eq (chunksOf pattern)
  have hchunks : chunksOf (glob ++ separator :: pattern) =
      glue (chunksOf glob) (.byte separator :: more) later := by
    rw [← foldr_addByte, ← hpiece, chunksOf, List.foldr_append]
    rfl
  have hpieces : ∀ piece ∈ (chunksOf glob).flatMap Chunk.pieces,
      piece.IsLocal := by
    intro piece hmem
    rw [flatMap_pieces_chunksOf] at hmem
    obtain ⟨b, hb, rfl⟩ := List.mem_map.mp hmem
    refine ⟨isPlain_pieceOf b, fun heq => hlocal ?_⟩
    rw [← pieceOf_eq_byte_separator_iff.mp heq]
    exact List.mem_of_mem_filter hb
  rw [matchesName_of_isPlain hplain, matchesName_of_isPlain hglob,
    matchesName_of_isPlain hpattern, hchunks, ← hmore]
  exact matchChunks_glue (tidy_chunksOf glob) hpieces hname more later t

theorem isPlain_join
    {globs : List Text} (h : ∀ glob ∈ globs, IsPlain glob) :
    IsPlain (Text.join [separator] globs) := by
  induction globs with
  | nil => exact fun b hb => absurd hb List.not_mem_nil
  | cons glob globs ih =>
      have hglob := h glob List.mem_cons_self
      by_cases hnil : globs = []
      · rw [hnil]
        exact hglob
      · have hrest := ih fun other hmem => h other (List.mem_cons_of_mem _ hmem)
        rw [Text.join_cons _ _ hnil]
        intro b hb
        simp only [List.mem_append, List.mem_singleton] at hb
        rcases hb with (hb | rfl) | hb
        · exact hglob b hb
        · decide
        · exact hrest b hb

/-- Globs match names one by one. -/
abbrev MatchesEach (globs names : List Text) : Prop :=
  List.Forall₂ (fun glob name => matchesName glob name = true) globs names

theorem MatchesEach.ne_nil
    {globs names : List Text} (h : MatchesEach globs names)
    (hglobs : globs ≠ []) :
    names ≠ [] := by
  rintro rfl
  exact hglobs (List.forall₂_nil_right_iff.mp h)

theorem MatchesEach.exists_mem
    {globs names : List Text} (h : MatchesEach globs names) {glob : Text}
    (hmem : glob ∈ globs) :
    ∃ name ∈ names, matchesName glob name = true := by
  induction h with
  | nil => exact absurd hmem List.not_mem_nil
  | cons hmatch _ ih =>
      rcases List.mem_cons.mp hmem with rfl | hmem
      · exact ⟨_, List.mem_cons_self, hmatch⟩
      · obtain ⟨name, hname, hmatch⟩ := ih hmem
        exact ⟨name, List.mem_cons_of_mem _ hname, hmatch⟩

theorem length_eq_of_matchesName_join
    {globs names : List Text} (hglobs : globs ≠ []) (hnames : names ≠ [])
    (hplain : ∀ glob ∈ globs, IsPlain glob)
    (hglob : ∀ glob ∈ globs, separator ∉ glob)
    (hname : ∀ name ∈ names, separator ∉ name)
    (hmatch : matchesName (Text.join [separator] globs)
      (Text.join [separator] names) = true) :
    globs.length = names.length := by
  have hcount := count_of_matchesName (isPlain_join hplain) hmatch
  rw [← Text.splitOn_join hglobs hglob, ← Text.splitOn_join hnames hname,
    Text.length_splitOn, Text.length_splitOn, hcount]

/-- A plain glob matches a path if and only if its segments match those of the
path one by one. -/
theorem matchesName_join_iff
    {globs names : List Text} (hglobs : globs ≠ []) (hnames : names ≠ [])
    (hplain : ∀ glob ∈ globs, IsPlain glob)
    (hglob : ∀ glob ∈ globs, separator ∉ glob)
    (hname : ∀ name ∈ names, separator ∉ name) :
    matchesName (Text.join [separator] globs) (Text.join [separator] names) =
        true ↔
      MatchesEach globs names := by
  induction globs generalizing names with
  | nil => exact absurd rfl hglobs
  | cons glob globs ih =>
      cases names with
      | nil => exact absurd rfl hnames
      | cons name names =>
          rw [MatchesEach, List.forall₂_cons]
          by_cases hlength : globs.length = names.length
          · by_cases hnil : names = []
            · subst hnil
              rw [List.length_nil, List.length_eq_zero_iff] at hlength
              subst hlength
              exact (and_iff_left List.Forall₂.nil).symm
            · have hnil' : globs ≠ [] := by
                intro h
                rw [h, List.length_nil] at hlength
                exact hnil (List.length_eq_zero_iff.mp hlength.symm)
              have hrest := ih hnil' hnil
                (fun other hmem => hplain other (List.mem_cons_of_mem _ hmem))
                (fun other hmem => hglob other (List.mem_cons_of_mem _ hmem))
                (fun other hmem => hname other (List.mem_cons_of_mem _ hmem))
              rw [Text.join_cons _ _ hnil, Text.join_cons _ _ hnil',
                List.append_assoc, List.append_assoc, List.singleton_append,
                List.singleton_append, matchesName_append_separator
                  (hplain glob List.mem_cons_self)
                  (isPlain_join fun other hmem =>
                    hplain other (List.mem_cons_of_mem _ hmem))
                  (hglob glob List.mem_cons_self)
                  (hname name List.mem_cons_self),
                Bool.and_eq_true, hrest]
          · constructor
            · intro hmatch
              have heq := length_eq_of_matchesName_join hglobs hnames hplain
                hglob hname hmatch
              exact absurd (Nat.succ.inj heq) hlength
            · rintro ⟨-, hrest⟩
              exact absurd hrest.length_eq hlength

/-! ## What a segment matches -/

/-- A glob is literal if it has no star and no `?`. -/
def IsLiteral (t : Text) : Prop :=
  star ∉ t ∧ question ∉ t

instance (t : Text) : Decidable (IsLiteral t) :=
  inferInstanceAs (Decidable (_ ∧ _))

theorem matchPieces?_map_byte
    {t name rest : Text} :
    matchPieces? (t.map Piece.byte) name = some rest ↔ name = t ++ rest := by
  induction t generalizing name with
  | nil => exact Option.some_inj
  | cons b t ih =>
      cases name with
      | nil => simp [matchPieces?]
      | cons c name =>
          rw [List.map_cons, matchPieces?]
          split
          · rename_i hb
            rw [ih, hb, List.cons_append, List.cons.injEq]
            exact (and_iff_right rfl).symm
          · rename_i hb
            simp [Ne.symm hb]

/-- A literal glob matches itself alone. -/
theorem matchesName_iff_of_isLiteral
    {glob name : Text} (h : IsPlain glob) (hliteral : IsLiteral glob) :
    matchesName glob name = true ↔ name = glob := by
  rw [matchesName_of_isPlain h]
  by_cases hnil : glob = []
  · subst hnil
    exact List.isEmpty_iff
  · have hpieces : glob.map pieceOf = glob.map Piece.byte := by
      apply List.map_congr_left
      intro b hb
      exact if_neg fun (heq : b = question) => hliteral.2 (heq ▸ hb)
    rw [chunksOf_of_notMem hnil hliteral.1, hpieces, matchChunks_false_cons,
      Option.any_eq_true, List.isEmpty_nil]
    constructor
    · rintro ⟨rest, hfit, -⟩
      have hmatch := (fit?_true_eq_some_iff.mp hfit).1
      rw [matchPieces?_map_byte, List.append_nil] at hmatch
      exact hmatch
    · rintro rfl
      refine ⟨[], fit?_true_eq_some_iff.mpr ⟨?_, rfl⟩, rfl⟩
      rw [matchPieces?_map_byte, List.append_nil]

theorem matchesName_stars
    {name : Text} (h : separator ∉ name) :
    matchesName [star, star] name = true := by
  have hplain : IsPlain [star, star] := by decide
  rw [matchesName_of_isPlain hplain]
  exact (matchChunks_true_singleton h).mpr (Or.inl rfl)

theorem pieces_eq_nil_of_matchChunks_nil
    {chunks : List Chunk} (htidy : Tidy chunks)
    (h : matchChunks chunks [] = true) :
    chunks.flatMap Chunk.pieces = [] := by
  induction chunks with
  | nil => rfl
  | cons chunk chunks ih =>
      rw [List.flatMap_cons]
      by_cases hstar : chunk.starred = true ∧ chunk.pieces = []
      · rw [htidy.eq_nil hstar.2, hstar.2]
        rfl
      · rw [matchChunks_cons hstar, Option.any_eq_true] at h
        obtain ⟨rest, hplace, hrest⟩ := h
        obtain ⟨passed, found, hname, -, hfit⟩ := exists_fit?_of_place? hplace
        obtain ⟨-, rfl⟩ := List.append_eq_nil_iff.mp hname.symm
        have hpieces : chunk.pieces = [] := by
          by_contra hne
          rw [fit?_nil hne] at hfit
          cases hfit
        rw [hpieces] at hfit
        have hempty : [] = rest := Option.some.inj (matchPieces?_of_fit? hfit)
        rw [← hempty] at hrest
        rw [hpieces, ih htidy.tail hrest]
        rfl

/-- Only stars match an empty name. -/
theorem eq_star_of_matchesName_nil
    {glob : Text} (h : IsPlain glob) (hmatch : matchesName glob [] = true) :
    ∀ b ∈ glob, b = star := by
  rw [matchesName_of_isPlain h] at hmatch
  have hpieces := pieces_eq_nil_of_matchChunks_nil (tidy_chunksOf glob) hmatch
  rw [flatMap_pieces_chunksOf, List.map_eq_nil_iff, List.filter_eq_nil_iff]
    at hpieces
  intro b hb
  simpa using hpieces b hb

/-! ## A name that a glob matches -/

/-- A byte that has no meaning in a glob or in a path. -/
def filler : UInt8 := 0x78

/-- A name that a glob matches: the last star and every `?` become a filler,
the other stars are left out. -/
def sample : Text → Text
  | [] => []
  | b :: t =>
    if b = star ∧ star ∈ t then sample t
    else (if b = star ∨ b = question then filler else b) :: sample t

theorem sample_ne_nil
    {glob : Text} (h : glob ≠ []) :
    sample glob ≠ [] := by
  induction glob with
  | nil => exact absurd rfl h
  | cons b t ih =>
      rw [sample]
      split
      · rename_i hstar
        exact ih (List.ne_nil_of_mem hstar.2)
      · exact List.cons_ne_nil _ _

theorem mem_sample
    {glob : Text} {b : UInt8} (h : b ∈ sample glob) :
    b = filler ∨ (b ∈ glob ∧ b ≠ star ∧ b ≠ question) := by
  induction glob with
  | nil => exact absurd h List.not_mem_nil
  | cons c t ih =>
      have hlater : b ∈ sample t →
          b = filler ∨ (b ∈ c :: t ∧ b ≠ star ∧ b ≠ question) := by
        intro hmem
        rcases ih hmem with hfiller | ⟨hglob, hne⟩
        · exact Or.inl hfiller
        · exact Or.inr ⟨List.mem_cons_of_mem c hglob, hne⟩
      rw [sample] at h
      split at h
      · exact hlater h
      · rcases List.mem_cons.mp h with hb | hmem
        · split at hb
          · exact Or.inl hb
          · rename_i hc
            rw [← hb, not_or] at hc
            exact Or.inr ⟨hb ▸ List.mem_cons_self, hc⟩
        · exact hlater hmem

theorem separator_notMem_sample
    {glob : Text} (h : separator ∉ glob) :
    separator ∉ sample glob := by
  intro hmem
  rcases mem_sample hmem with hfiller | ⟨hglob, -⟩
  · exact absurd hfiller (by decide)
  · exact h hglob

theorem isLiteral_sample
    (glob : Text) :
    IsLiteral (sample glob) := by
  constructor
  · intro hmem
    rcases mem_sample hmem with hfiller | ⟨-, hne, -⟩
    · exact absurd hfiller (by decide)
    · exact hne rfl
  · intro hmem
    rcases mem_sample hmem with hfiller | ⟨-, -, hne⟩
    · exact absurd hfiller (by decide)
    · exact hne rfl

theorem sample_of_isLiteral
    {glob : Text} (h : IsLiteral glob) :
    sample glob = glob := by
  induction glob with
  | nil => rfl
  | cons b t ih =>
      simp only [IsLiteral, List.mem_cons, not_or] at h
      obtain ⟨⟨hstar, hstar'⟩, hquestion, hquestion'⟩ := h
      rw [sample, if_neg fun h => hstar h.1.symm,
        if_neg (not_or.mpr ⟨Ne.symm hstar, Ne.symm hquestion⟩),
        ih ⟨hstar', hquestion'⟩]

theorem filler_mem_sample
    {glob : Text} (h : ¬IsLiteral glob) :
    filler ∈ sample glob := by
  induction glob with
  | nil => exact absurd ⟨List.not_mem_nil, List.not_mem_nil⟩ h
  | cons b t ih =>
      rw [sample]
      split
      · rename_i hstar
        exact ih fun hliteral => hliteral.1 hstar.2
      · by_cases hb : b = star ∨ b = question
        · rw [if_pos hb]
          exact List.mem_cons_self
        · apply List.mem_cons_of_mem
          apply ih
          rintro ⟨hstar, hquestion⟩
          rw [not_or] at hb
          apply h
          constructor
          · rw [List.mem_cons, not_or]
            exact ⟨Ne.symm hb.1, hstar⟩
          · rw [List.mem_cons, not_or]
            exact ⟨Ne.symm hb.2, hquestion⟩

theorem seek?_of_fit?
    {last : Bool} {pieces : List Piece} {name rest : Text}
    (h : fit? last pieces name = some rest) :
    seek? last pieces name = some rest := by
  cases name with
  | nil => exact h
  | cons b name => rw [seek?_cons, h, Option.some_or]

/-- A star may stand for nothing. -/
theorem matchChunks_addStar
    {chunks : List Chunk} {name : Text} (htidy : Tidy chunks)
    (hname : separator ∉ name) (h : matchChunks chunks name = true) :
    matchChunks (addStar chunks) name = true := by
  cases chunks with
  | nil => exact (matchChunks_true_singleton hname).mpr (Or.inl rfl)
  | cons chunk chunks =>
      rw [addStar]
      by_cases hpieces : chunk.pieces = []
      · rw [htidy.eq_nil hpieces, hpieces]
        exact (matchChunks_true_singleton hname).mpr (Or.inl rfl)
      · rw [matchChunks_cons fun hstar => hpieces hstar.2,
          Option.any_eq_true] at h
        rw [matchChunks_cons (by simpa using hpieces), Option.any_eq_true]
        obtain ⟨rest, hplace, hrest⟩ := h
        refine ⟨rest, ?_, hrest⟩
        rw [place?] at hplace
        rw [place?, if_pos rfl]
        split at hplace
        · exact hplace
        · exact seek?_of_fit? hplace

/-- The last star may stand for a byte. -/
theorem matchChunks_star_cons
    {t name : Text} (ht : star ∉ t) {b : UInt8} (hname : separator ∉ b :: name)
    (h : matchChunks (chunksOf t) name = true) :
    matchChunks (chunksOf (star :: t)) (b :: name) = true := by
  rw [chunksOf_cons, addByte, if_pos rfl]
  by_cases hnil : t = []
  · rw [hnil]
    exact (matchChunks_true_singleton hname).mpr (Or.inl rfl)
  · rw [chunksOf_of_notMem hnil ht] at h ⊢
    rw [matchChunks_false_cons, Option.any_eq_true, List.isEmpty_nil] at h
    obtain ⟨rest, hfit, -⟩ := h
    have hb : b ≠ separator := fun hb => hname (hb ▸ List.mem_cons_self)
    have hseek : (seek? true (t.map pieceOf) (b :: name)).isSome := by
      rw [seek?_cons, if_neg hb, seek?_of_fit? hfit, Option.isSome_or]
      exact Bool.or_true _
    exact (matchChunks_true_singleton hname).mpr (Or.inr hseek)

theorem matchChunks_addPiece_cons
    {piece : Piece} {b : UInt8} {name : Text}
    (h : ∀ pieces, matchPieces? (piece :: pieces) (b :: name) =
      matchPieces? pieces name)
    (chunks : List Chunk) :
    matchChunks (addPiece piece chunks) (b :: name) =
      matchChunks chunks name := by
  obtain ⟨more, later, hpiece, hmore⟩ := exists_addPiece_eq chunks
  rw [hpiece, ← hmore, matchChunks_false_cons, matchChunks_false_cons, fit?,
    fit?, h]

theorem laterBytes_filler
    (t : Text) :
    laterBytes filler t = 0 := by
  have hchar : String.utf8EncodeChar 'x' = [filler] := by decide
  have hfirst := Text.firstChar?_utf8EncodeChar_append 'x' t
  rw [hchar, List.singleton_append] at hfirst
  rw [laterBytes, hfirst]
  rfl

/-- A plain glob matches its sample. -/
theorem matchesName_sample
    {glob : Text} (h : IsPlain glob) (hlocal : separator ∉ glob) :
    matchesName glob (sample glob) = true := by
  rw [matchesName_of_isPlain h]
  clear h
  induction glob with
  | nil => rfl
  | cons b t ih =>
      have ht : separator ∉ t := fun hmem => hlocal (List.mem_cons_of_mem b hmem)
      have hmatch := ih ht
      have hname := separator_notMem_sample ht
      rw [sample]
      by_cases hb : b = star
      · subst hb
        by_cases hstar : star ∈ t
        · rw [if_pos ⟨rfl, hstar⟩, chunksOf_cons, addByte, if_pos rfl]
          exact matchChunks_addStar (tidy_chunksOf t) hname hmatch
        · rw [if_neg fun h => hstar h.2, if_pos (Or.inl rfl)]
          apply matchChunks_star_cons hstar _ hmatch
          rw [List.mem_cons, not_or]
          exact ⟨by decide, hname⟩
      · rw [if_neg fun h => hb h.1, chunksOf_cons, addByte, if_neg hb,
          matchChunks_addPiece_cons _ (chunksOf t)]
        · exact hmatch
        · intro pieces
          by_cases hquestion : b = question
          · rw [if_pos (Or.inr hquestion), pieceOf, if_pos hquestion,
              matchPieces?_any_cons, if_neg (by decide), laterBytes_filler,
              List.drop_zero]
          · rw [if_neg (not_or.mpr ⟨hb, hquestion⟩), pieceOf,
              if_neg hquestion, matchPieces?, if_pos rfl]

end Glob

end AssetMinifier
