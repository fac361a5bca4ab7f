import AssetMinifier.Path.Glob
import Mathlib.Data.List.TakeWhile

/-!
# The chunks of a plain glob

A glob without brackets and backslashes is *plain*.  It is always well-formed,
and its chunks are read off its bytes from the right, one byte at a time.  Only
the last of them can be a star with nothing behind it.
-/

namespace AssetMinifier

namespace Glob

/-- A glob is plain if it has no bracket and no backslash. -/
def IsPlain (t : Text) : Prop :=
  ∀ b ∈ t, b ≠ opening ∧ b ≠ closing ∧ b ≠ escape

instance (t : Text) : Decidable (IsPlain t) :=
  List.decidableBAll _ t

theorem IsPlain.of_subset
    {s t : Text} (h : IsPlain t) (hst : s ⊆ t) :
    IsPlain s :=
  fun b hb => h b (hst hb)

/-- The byte that stands for one character. -/
def question : UInt8 := 0x3F

/-- The piece that a byte of a plain glob stands for. -/
def pieceOf (b : UInt8) : Piece :=
  if b = question then .any else .byte b

/-- Put a star before some chunks. -/
def addStar : List Chunk → List Chunk
  | chunk :: chunks => ⟨true, chunk.pieces⟩ :: chunks
  | [] => [⟨true, []⟩]

/-- Put a piece before some chunks. -/
def addPiece (piece : Piece) : List Chunk → List Chunk
  | ⟨false, pieces⟩ :: chunks => ⟨false, piece :: pieces⟩ :: chunks
  | chunks => ⟨false, [piece]⟩ :: chunks

/-- Put a byte of a plain glob before the chunks of what follows it. -/
def addByte (b : UInt8) (chunks : List Chunk) : List Chunk :=
  if b = star then addStar chunks else addPiece (pieceOf b) chunks

/-- The chunks of a plain glob. -/
def chunksOf (t : Text) : List Chunk :=
  t.foldr addByte []

theorem chunksOf_cons
    (b : UInt8) (t : Text) :
    chunksOf (b :: t) = addByte b (chunksOf t) :=
  rfl

theorem addPiece_of_starred
    (piece : Piece) {chunks : List Chunk}
    (h : ∀ chunk ∈ chunks.head?, chunk.starred = true) :
    addPiece piece chunks = ⟨false, [piece]⟩ :: chunks := by
  cases chunks with
  | nil => rfl
  | cons chunk chunks =>
      obtain ⟨starred, pieces⟩ := chunk
      have hstarred : starred = true := h ⟨starred, pieces⟩ rfl
      rw [hstarred]
      rfl

/-- Up to its first star a glob is one chunk. -/
theorem chunksOf_append
    {s t : Text} (hne : s ≠ []) (hs : star ∉ s)
    (ht : ∀ b ∈ t.head?, b = star) :
    chunksOf (s ++ t) = ⟨false, s.map pieceOf⟩ :: chunksOf t := by
  induction s with
  | nil => exact absurd rfl hne
  | cons b s ih =>
      have hb : b ≠ star := fun hb => hs (hb ▸ List.mem_cons_self)
      have hrest : star ∉ s := fun hmem => hs (List.mem_cons_of_mem b hmem)
      rw [List.cons_append, chunksOf_cons, addByte, if_neg hb]
      by_cases hnil : s = []
      · subst hnil
        apply addPiece_of_starred
        cases t with
        | nil => simp [chunksOf]
        | cons c t =>
            have hc : c = star := ht c rfl
            rw [List.nil_append, chunksOf_cons, addByte, if_pos hc]
            cases chunksOf t <;> simp [addStar]
      · rw [ih hnil hrest]
        rfl

theorem chunksOf_of_notMem
    {t : Text} (hne : t ≠ []) (h : star ∉ t) :
    chunksOf t = [⟨false, t.map pieceOf⟩] := by
  have hchunks := chunksOf_append (t := []) hne h
    fun b hb => absurd hb (Option.not_mem_none b)
  rwa [List.append_nil] at hchunks

theorem addStar_addStar
    (chunks : List Chunk) :
    addStar (addStar chunks) = addStar chunks := by
  cases chunks <;> rfl

theorem chunksOf_star_cons
    (t : Text) :
    chunksOf (star :: t) = addStar (chunksOf (t.dropWhile (· = star))) := by
  induction t with
  | nil => rfl
  | cons b t ih =>
      by_cases hb : b = star
      · rw [hb, chunksOf_cons, ih, List.dropWhile_cons_of_pos (by simp),
          addByte, if_pos rfl, addStar_addStar]
      · rw [List.dropWhile_cons_of_neg (by simpa using hb), chunksOf_cons,
          addByte, if_pos rfl]

/-- A glob divides into stars, a chunk without a star, and what is left, which
starts with a star again. -/
theorem exists_first_chunk
    (b : UInt8) (t : Text) :
    ∃ chunk later, (b :: t).dropWhile (· = star) = chunk ++ later ∧
      star ∉ chunk ∧ (∀ c ∈ later.head?, c = star) ∧ later <:+ t := by
  let rest := (b :: t).dropWhile (· = star)
  refine ⟨rest.takeWhile (· ≠ star), rest.dropWhile (· ≠ star),
    List.takeWhile_append_dropWhile.symm, ?_, ?_, ?_⟩
  · intro hstar
    simpa using List.mem_takeWhile_imp hstar
  · intro c hc
    have hnot := List.head?_dropWhile_not (· ≠ star) rest
    rw [Option.mem_def.mp hc] at hnot
    simpa using hnot
  · by_cases hb : b = star
    · have hrest : rest = t.dropWhile (· = star) :=
        List.dropWhile_cons_of_pos (by simpa using hb)
      exact (List.dropWhile_suffix _).trans (hrest ▸ List.dropWhile_suffix _)
    · have hrest : rest = b :: t :=
        List.dropWhile_cons_of_neg (by simpa using hb)
      rw [hrest, List.dropWhile_cons_of_pos (by simpa using hb)]
      exact List.dropWhile_suffix _

/-- What stands behind the stars, up to the next one, is the first chunk. -/
theorem chunksOf_eq_cons
    {b : UInt8} {t chunk later : Text}
    (hrest : (b :: t).dropWhile (· = star) = chunk ++ later)
    (hchunk : star ∉ chunk) (hlater : ∀ c ∈ later.head?, c = star) :
    chunksOf (b :: t) =
      ⟨b = star, chunk.map pieceOf⟩ :: chunksOf later := by
  -- Without a chunk there is nothing behind the stars.
  have hnil : chunk = [] → later = [] := by
    rintro rfl
    cases later with
    | nil => rfl
    | cons c later =>
        have hnot := List.head?_dropWhile_not (· = star) (b :: t)
        rw [hrest] at hnot
        exact absurd (hlater c rfl) (by simpa using hnot)
  by_cases hb : b = star
  · rw [List.dropWhile_cons_of_pos (by simpa using hb)] at hrest
    rw [hb, chunksOf_star_cons, hrest]
    by_cases hempty : chunk = []
    · rw [hnil hempty, hempty]
      rfl
    · rw [chunksOf_append hempty hchunk hlater]
      simp [addStar]
  · rw [List.dropWhile_cons_of_neg (by simpa using hb)] at hrest
    have hne : chunk ≠ [] := by
      intro hempty
      rw [hnil hempty, hempty] at hrest
      exact List.cons_ne_nil b t hrest
    rw [hrest, chunksOf_append hne hchunk hlater, decide_eq_false hb]

theorem chunkLength_append
    {chunk later : Text} (h : IsPlain chunk) (hchunk : star ∉ chunk)
    (hlater : ∀ c ∈ later.head?, c = star) :
    chunkLength false (chunk ++ later) = chunk.length := by
  induction chunk with
  | nil =>
      cases later with
      | nil => rfl
      | cons c later =>
          rw [List.nil_append, hlater c rfl, chunkLength.eq_def]
          simp [star, escape, opening, closing]
  | cons b chunk ih =>
      obtain ⟨hopening, hclosing, hescape⟩ := h b List.mem_cons_self
      have hb : b ≠ star := fun hb => hchunk (hb ▸ List.mem_cons_self)
      have hrest := ih (h.of_subset (List.subset_cons_self b chunk))
        fun hmem => hchunk (List.mem_cons_of_mem b hmem)
      rw [List.cons_append, chunkLength.eq_def]
      simp [hopening, hclosing, hescape, hb, hrest]

theorem pieces?_of_isPlain
    {t : Text} (h : IsPlain t) :
    pieces? t.length t = some (t.map pieceOf) := by
  induction t with
  | nil => rfl
  | cons b t ih =>
      obtain ⟨hopening, -, hescape⟩ := h b List.mem_cons_self
      have ht := ih (h.of_subset (List.subset_cons_self b t))
      by_cases hb : b = question
      · simp [pieces?, hb, question, opening, pieceOf, ht]
      · have hb' : b ≠ 0x3F := hb
        simp [pieces?, hopening, hescape, hb', pieceOf, hb, ht]

theorem chunks?_of_isPlain
    {t : Text} (h : IsPlain t) {fuel : Nat} (hfuel : t.length < fuel) :
    chunks? fuel t = some (chunksOf t) := by
  induction fuel generalizing t with
  | zero => exact absurd hfuel (Nat.not_lt_zero _)
  | succ fuel ih =>
      cases t with
      | nil => rfl
      | cons b t =>
          obtain ⟨chunk, later, hrest, hchunk, hlater, hsuffix⟩ :=
            exists_first_chunk b t
          have hsub : chunk ++ later ⊆ b :: t :=
            hrest ▸ (List.dropWhile_suffix _).subset
          have hplain : IsPlain chunk :=
            h.of_subset (List.Subset.trans (List.subset_append_left _ _) hsub)
          have hchunks : chunks? fuel later = some (chunksOf later) := by
            apply ih
              (h.of_subset (List.Subset.trans (List.subset_append_right _ _) hsub))
            exact hsuffix.length_le.trans_lt (Nat.lt_of_succ_lt_succ hfuel)
          rw [chunks?, hrest]
          simp only [chunkLength_append hplain hchunk hlater, List.take_left,
            List.drop_left, pieces?_of_isPlain hplain, hchunks,
            chunksOf_eq_cons hrest hchunk hlater, Option.bind_eq_bind,
            Option.bind_some]

theorem matchesName_of_isPlain
    {pattern : Text} (h : IsPlain pattern) (name : Text) :
    matchesName pattern name = matchChunks (chunksOf pattern) name := by
  rw [matchesName, chunks?_of_isPlain h (Nat.lt_succ_self _)]

/-- The pieces of the chunks are the bytes of the glob but its stars. -/
theorem flatMap_pieces_chunksOf
    (t : Text) :
    (chunksOf t).flatMap Chunk.pieces = (t.filter (· ≠ star)).map pieceOf := by
  induction t with
  | nil => rfl
  | cons b t ih =>
      have hstar : ∀ chunks, (addStar chunks).flatMap Chunk.pieces =
          chunks.flatMap Chunk.pieces := by
        intro chunks
        cases chunks <;> rfl
      have hpiece : ∀ piece chunks, (addPiece piece chunks).flatMap Chunk.pieces =
          piece :: chunks.flatMap Chunk.pieces := by
        intro piece chunks
        unfold addPiece
        split <;> simp
      rw [chunksOf_cons, addByte]
      by_cases hb : b = star
      · rw [if_pos hb, hstar, ih, List.filter_cons_of_neg (by simpa using hb)]
      · rw [if_neg hb, hpiece, ih, List.filter_cons_of_pos (by simpa using hb),
          List.map_cons]

/-- Chunks are tidy if only the last one may have no pieces. -/
def Tidy : List Chunk → Prop
  | chunk :: next :: chunks => chunk.pieces ≠ [] ∧ Tidy (next :: chunks)
  | _ => True

theorem Tidy.tail
    {chunk : Chunk} {chunks : List Chunk} (h : Tidy (chunk :: chunks)) :
    Tidy chunks := by
  cases chunks with
  | nil => trivial
  | cons next chunks => exact h.2

theorem Tidy.eq_nil
    {chunk : Chunk} {chunks : List Chunk} (h : Tidy (chunk :: chunks))
    (hpieces : chunk.pieces = []) :
    chunks = [] := by
  cases chunks with
  | nil => rfl
  | cons next chunks => exact absurd hpieces h.1

theorem tidy_chunksOf
    (t : Text) :
    Tidy (chunksOf t) := by
  induction t with
  | nil => trivial
  | cons b t ih =>
      rw [chunksOf_cons, addByte]
      generalize chunksOf t = chunks at ih ⊢
      by_cases hb : b = star
      · rw [if_pos hb]
        cases chunks with
        | nil => trivial
        | cons chunk chunks => cases chunks <;> exact ih
      · rw [if_neg hb]
        unfold addPiece
        split
        · rename_i pieces chunks
          cases chunks with
          | nil => trivial
          | cons next chunks => exact ⟨List.cons_ne_nil _ _, ih.2⟩
        · cases chunks with
          | nil => trivial
          | cons next chunks => exact ⟨List.cons_ne_nil _ _, ih⟩

end Glob

end AssetMinifier
