import AssetMinifier.Proofs.Path.Chunk
import AssetMinifier.Proofs.Text.Legible

/-!
# Matching a plain glob

In a plain glob no star and no `?` takes a slash, and nothing looks beyond one.
So a glob has as many slashes as what it matches, and what stands before its
first slash is matched on its own.
-/

namespace AssetMinifier

namespace Glob

open AssetMinifier.Path (separator)

/-! ## Pieces and slashes -/

/-- The number of bytes that follow the first one in the first rune of a
text. -/
def laterBytes (b : UInt8) (t : Text) : Nat :=
  (Text.firstChar? (b :: t)).elim 1 Char.utf8Size - 1

theorem separator_notMem_utf8_tail
    {c : Char} {b : UInt8} {tail : Text}
    (hc : String.utf8EncodeChar c = b :: tail) :
    separator ∉ tail := by
  have hslash : String.utf8EncodeChar '/' = [separator] := by decide
  intro hmem
  exact Text.not_isUTF8FirstByte_of_mem_tail hc hmem
    (Text.isUTF8FirstByte_of_cons hslash)

/-- The first rune lies within the text, and a slash is at most its first
byte. -/
theorem exists_later_bytes
    (b : UInt8) (t : Text) :
    ∃ passed rest, t = passed ++ rest ∧ separator ∉ passed ∧
      passed.length = laterBytes b t := by
  rw [laterBytes]
  cases h : Text.firstChar? (b :: t) with
  | none => exact ⟨[], t, rfl, List.not_mem_nil, rfl⟩
  | some c =>
      obtain ⟨rest, hrest⟩ := Text.firstChar?_eq_some_iff.mp h
      obtain ⟨x, tail, hc, htail⟩ := Text.utf8EncodeChar_eq_cons c
      rw [hc, List.cons_append, List.cons.injEq] at hrest
      exact ⟨tail, rest, hrest.2, separator_notMem_utf8_tail hc, htail⟩

theorem firstChar?_append_separator
    (b : UInt8) (s t : Text) :
    Text.firstChar? (b :: (s ++ separator :: t)) =
      Text.firstChar? (b :: s) := by
  apply Option.ext
  intro c
  rw [Text.firstChar?_eq_some_iff, Text.firstChar?_eq_some_iff]
  obtain ⟨x, tail, hc, -⟩ := Text.utf8EncodeChar_eq_cons c
  rw [hc]
  constructor
  · rintro ⟨rest, hrest⟩
    rw [List.cons_append, List.cons.injEq] at hrest
    obtain ⟨rfl, hrest⟩ := hrest
    -- No character has a slash among its later bytes, so it ends before one.
    have htail : tail <+: s := by
      rcases List.append_eq_append_iff.mp hrest with ⟨more, hs, ht⟩ | ⟨more, hs, -⟩
      · cases more with
        | nil => exact ⟨[], by rw [hs, List.append_nil, List.append_nil]⟩
        | cons y more =>
            obtain ⟨rfl, -⟩ := List.cons.inj ht
            exact absurd (hs ▸ by simp) (separator_notMem_utf8_tail hc)
      · exact ⟨more, hs.symm⟩
    obtain ⟨more, rfl⟩ := htail
    exact ⟨more, rfl⟩
  · rintro ⟨rest, hrest⟩
    exact ⟨rest ++ separator :: t, by
      rw [← List.cons_append, hrest, List.append_assoc]⟩

theorem drop_laterBytes_append_separator
    (b : UInt8) (s t : Text) :
    (s ++ separator :: t).drop (laterBytes b (s ++ separator :: t)) =
      s.drop (laterBytes b s) ++ separator :: t := by
  have hsame : laterBytes b (s ++ separator :: t) = laterBytes b s := by
    rw [laterBytes, firstChar?_append_separator, ← laterBytes]
  obtain ⟨passed, rest, rfl, -, hlength⟩ := exists_later_bytes b s
  rw [hsame, ← hlength, List.append_assoc, List.drop_left, List.drop_left]

theorem matchPieces?_any_cons
    (pieces : List Piece) (b : UInt8) (name : Text) :
    matchPieces? (.any :: pieces) (b :: name) =
      if b = separator then none
      else matchPieces? pieces (name.drop (laterBytes b name)) :=
  rfl

/-- A piece that is no bracket. -/
def Piece.IsPlain : Piece → Prop
  | .oneOf _ _ => False
  | _ => True

/-- A piece that takes no slash. -/
def Piece.IsLocal (piece : Piece) : Prop :=
  piece.IsPlain ∧ piece ≠ .byte separator

/-- A match of plain pieces passes over as many slashes as there are among
them. -/
theorem count_of_matchPieces?
    {pieces : List Piece} {name rest : Text}
    (hplain : ∀ piece ∈ pieces, piece.IsPlain)
    (h : matchPieces? pieces name = some rest) :
    name.count separator =
      pieces.count (.byte separator) + rest.count separator := by
  induction pieces generalizing name with
  | nil =>
      rw [matchPieces?, Option.some.injEq] at h
      rw [h, List.count_nil, Nat.zero_add]
  | cons piece pieces ih =>
      have hpieces : ∀ piece ∈ pieces, piece.IsPlain :=
        fun piece hmem => hplain piece (List.mem_cons_of_mem _ hmem)
      cases name with
      | nil => cases h
      | cons b name =>
          cases piece with
          | byte c =>
              rw [matchPieces?] at h
              split at h
              · rename_i hc
                have hrest := ih hpieces h
                by_cases hb : b = separator
                · simp [hc, hb, hrest]
                  omega
                · have hne : Piece.byte c ≠ .byte separator := by
                    simpa [hc] using hb
                  rw [List.count_cons_of_ne hb, List.count_cons_of_ne hne, hrest]
              · cases h
          | any =>
              rw [matchPieces?_any_cons] at h
              split at h
              · cases h
              · rename_i hb
                obtain ⟨passed, after, rfl, hpassed, hlength⟩ :=
                  exists_later_bytes b name
                rw [← hlength, List.drop_left] at h
                rw [List.count_cons_of_ne hb, List.count_append,
                  List.count_eq_zero.mpr hpassed, Nat.zero_add, ih hpieces h,
                  List.count_cons_of_ne (by simp)]
          | oneOf negated ranges => exact (hplain _ List.mem_cons_self).elim

theorem matchPieces?_append
    (pieces more : List Piece) (name : Text) :
    matchPieces? (pieces ++ more) name =
      (matchPieces? pieces name).bind (matchPieces? more) := by
  induction pieces generalizing name with
  | nil => rfl
  | cons piece pieces ih =>
      cases name with
      | nil => rfl
      | cons b name =>
          cases piece with
          | byte c =>
              simp only [List.cons_append, matchPieces?]
              split
              · exact ih name
              · rfl
          | any =>
              simp only [List.cons_append, matchPieces?]
              split
              · rfl
              · exact ih _
          | oneOf negated ranges =>
              simp only [List.cons_append, matchPieces?]
              split
              · rfl
              · exact ih _

/-- Pieces that take no slash do not look beyond one. -/
theorem matchPieces?_append_separator
    {pieces : List Piece} (hlocal : ∀ piece ∈ pieces, piece.IsLocal)
    (name t : Text) :
    matchPieces? pieces (name ++ separator :: t) =
      (matchPieces? pieces name).map (· ++ separator :: t) := by
  induction pieces generalizing name with
  | nil => rfl
  | cons piece pieces ih =>
      have hpieces := ih fun piece hmem =>
        hlocal piece (List.mem_cons_of_mem _ hmem)
      obtain ⟨hplain, hne⟩ := hlocal piece List.mem_cons_self
      cases piece with
      | byte c =>
          have hc : c ≠ separator := by simpa using hne
          cases name with
          | nil => simp [matchPieces?, hc]
          | cons b name =>
              simp only [List.cons_append, matchPieces?]
              split
              · exact hpieces name
              · rfl
      | any =>
          cases name with
          | nil => simp [matchPieces?]
          | cons b name =>
              rw [List.cons_append, matchPieces?_any_cons,
                matchPieces?_any_cons, drop_laterBytes_append_separator,
                hpieces]
              split <;> rfl
      | oneOf negated ranges => exact hplain.elim

theorem separator_notMem_of_matchPieces?
    {pieces : List Piece} {name rest : Text}
    (hlocal : ∀ piece ∈ pieces, piece.IsLocal) (hname : separator ∉ name)
    (h : matchPieces? pieces name = some rest) :
    separator ∉ rest := by
  have hcount := count_of_matchPieces?
    (fun piece hmem => (hlocal piece hmem).1) h
  rw [List.count_eq_zero.mpr hname] at hcount
  apply List.count_eq_zero.mp
  omega

/-! ## Places of a chunk -/

theorem matchPieces?_of_fit?
    {last : Bool} {pieces : List Piece} {name rest : Text}
    (h : fit? last pieces name = some rest) :
    matchPieces? pieces name = some rest :=
  (Option.filter_eq_some_iff.mp h).1

theorem fit?_nil
    {last : Bool} {pieces : List Piece} (hpieces : pieces ≠ []) :
    fit? last pieces [] = none := by
  cases pieces with
  | nil => exact absurd rfl hpieces
  | cons piece pieces => rfl

theorem fit?_true_eq_some_iff
    {pieces : List Piece} {name rest : Text} :
    fit? true pieces name = some rest ↔
      matchPieces? pieces name = some [] ∧ rest = [] := by
  rw [fit?, Option.filter_eq_some_iff]
  constructor
  · rintro ⟨hmatch, hempty⟩
    have hrest : rest = [] := by simpa using hempty
    exact ⟨hrest ▸ hmatch, hrest⟩
  · rintro ⟨hmatch, rfl⟩
    exact ⟨hmatch, rfl⟩

theorem fit?_true_of_ne
    {pieces : List Piece} {name : Text}
    (h : matchPieces? pieces name ≠ some []) :
    fit? true pieces name = none := by
  apply Option.eq_none_iff_forall_ne_some.mpr
  intro rest hfit
  exact h (fit?_true_eq_some_iff.mp hfit).1

theorem seek?_cons
    (last : Bool) (pieces : List Piece) (b : UInt8) (name : Text) :
    seek? last pieces (b :: name) =
      (fit? last pieces (b :: name)).or
        (if b = separator then none else seek? last pieces name) := by
  rw [seek?]
  cases fit? last pieces (b :: name) <;> rfl

/-- The place of a chunk behind a star is a place of the chunk, and the star
takes no slash. -/
theorem exists_fit?_of_seek?
    {last : Bool} {pieces : List Piece} {name rest : Text}
    (h : seek? last pieces name = some rest) :
    ∃ passed found, name = passed ++ found ∧ separator ∉ passed ∧
      fit? last pieces found = some rest := by
  induction name with
  | nil => exact ⟨[], [], rfl, List.not_mem_nil, h⟩
  | cons b name ih =>
      rw [seek?_cons, Option.or_eq_some_iff] at h
      rcases h with hfit | ⟨-, hseek⟩
      · exact ⟨[], b :: name, rfl, List.not_mem_nil, hfit⟩
      · split at hseek
        · cases hseek
        · rename_i hb
          obtain ⟨passed, found, rfl, hpassed, hfit⟩ := ih hseek
          refine ⟨b :: passed, found, rfl, ?_, hfit⟩
          rw [List.mem_cons, not_or]
          exact ⟨Ne.symm hb, hpassed⟩

/-- The rest of a name behind the place of a chunk. -/
def place? (last : Bool) (chunk : Chunk) (name : Text) : Option Text :=
  if chunk.starred then seek? last chunk.pieces name
  else fit? last chunk.pieces name

theorem exists_fit?_of_place?
    {last : Bool} {chunk : Chunk} {name rest : Text}
    (h : place? last chunk name = some rest) :
    ∃ passed found, name = passed ++ found ∧ separator ∉ passed ∧
      fit? last chunk.pieces found = some rest := by
  rw [place?] at h
  split at h
  · exact exists_fit?_of_seek? h
  · exact ⟨[], name, rfl, List.not_mem_nil, h⟩

section Local

variable {pieces : List Piece} (hlocal : ∀ piece ∈ pieces, piece.IsLocal)

include hlocal

/-- A chunk that is not the last one finds its place before the next slash. -/
theorem fit?_append_separator
    (name t : Text) :
    fit? false pieces (name ++ separator :: t) =
      (fit? false pieces name).map (· ++ separator :: t) := by
  have hkeep : ∀ rest? : Option Text,
      rest?.filter (fun rest => !false || rest.isEmpty) = rest? := by
    intro rest?
    cases rest? <;> rfl
  rw [fit?, fit?, hkeep, hkeep, matchPieces?_append_separator hlocal]

theorem seek?_append_separator
    (hne : pieces ≠ []) (name t : Text) :
    seek? false pieces (name ++ separator :: t) =
      (seek? false pieces name).map (· ++ separator :: t) := by
  induction name with
  | nil =>
      have hfit := fit?_append_separator hlocal [] t
      rw [List.nil_append] at hfit ⊢
      rw [seek?_cons, hfit, fit?_nil hne, if_pos rfl, seek?, fit?_nil hne]
      rfl
  | cons b name ih =>
      have hfit := fit?_append_separator hlocal (b :: name) t
      rw [List.cons_append] at hfit ⊢
      rw [seek?_cons, seek?_cons, hfit, ih, Option.map_or]
      split <;> rfl

/-- A chunk that goes on behind a slash has to reach it with the pieces that
stand before it. -/
theorem fit?_append_separator_cons
    {name : Text} (hname : separator ∉ name)
    (last : Bool) (more : List Piece) (t : Text) :
    fit? last (pieces ++ .byte separator :: more) (name ++ separator :: t) =
      if matchPieces? pieces name = some [] then fit? last more t else none := by
  rw [fit?, matchPieces?_append, matchPieces?_append_separator hlocal]
  cases h : matchPieces? pieces name with
  | none => simp
  | some rest =>
      cases rest with
      | nil => simp [matchPieces?, fit?]
      | cons b rest =>
          have hrest := separator_notMem_of_matchPieces? hlocal hname h
          have hb : separator ≠ b := by
            rintro rfl
            exact hrest List.mem_cons_self
          simp [matchPieces?, hb]

theorem seek?_append_separator_cons
    {name : Text} (hname : separator ∉ name)
    (last : Bool) (more : List Piece) (t : Text) :
    seek? last (pieces ++ .byte separator :: more) (name ++ separator :: t) =
      if pieces = [] ∨ (seek? true pieces name).isSome then fit? last more t
      else none := by
  have hfit := fit?_append_separator_cons hlocal hname last more t
  induction name with
  | nil =>
      rw [List.nil_append] at hfit ⊢
      rw [seek?_cons, hfit, if_pos rfl, Option.or_none, seek?]
      cases pieces <;> rfl
  | cons b name ih =>
      have hb : b ≠ separator := fun hb => hname (hb ▸ List.mem_cons_self)
      have hrest : separator ∉ name :=
        fun hmem => hname (List.mem_cons_of_mem b hmem)
      have hseek := ih hrest
        (fit?_append_separator_cons hlocal hrest last more t)
      rw [List.cons_append] at hfit ⊢
      rw [seek?_cons, seek?_cons, hfit, if_neg hb, if_neg hb, hseek]
      by_cases hmatch : matchPieces? pieces (b :: name) = some []
      · have hhere : fit? true pieces (b :: name) = some [] :=
          fit?_true_eq_some_iff.mpr ⟨hmatch, rfl⟩
        rw [if_pos hmatch, hhere]
        cases fit? last more t <;> simp
      · rw [if_neg hmatch, fit?_true_of_ne hmatch, Option.none_or,
          Option.none_or]

end Local

/-! ## Chunks and slashes -/

theorem matchChunks_cons
    {chunk : Chunk} {chunks : List Chunk} {name : Text}
    (h : ¬(chunk.starred = true ∧ chunk.pieces = [])) :
    matchChunks (chunk :: chunks) name =
      (place? chunks.isEmpty chunk name).any (matchChunks chunks) := by
  have hbranch : ¬(chunk.starred && chunk.pieces.isEmpty) = true := by
    simpa using h
  rw [matchChunks, if_neg hbranch, ← place?]
  cases place? chunks.isEmpty chunk name <;> rfl

/-- Chunks that match a name have as many slashes as the name. -/
theorem count_of_matchChunks
    {chunks : List Chunk} {name : Text} (htidy : Tidy chunks)
    (hplain : ∀ piece ∈ chunks.flatMap Chunk.pieces, piece.IsPlain)
    (h : matchChunks chunks name = true) :
    name.count separator =
      (chunks.flatMap Chunk.pieces).count (.byte separator) := by
  induction chunks generalizing name with
  | nil =>
      have hname : name = [] := by simpa [matchChunks] using h
      rw [hname]
      rfl
  | cons chunk chunks ih =>
      rw [List.flatMap_cons] at hplain ⊢
      by_cases hstar : chunk.starred = true ∧ chunk.pieces = []
      · rw [htidy.eq_nil hstar.2, hstar.2, List.flatMap_nil]
        have hname : separator ∉ name := by
          simpa [matchChunks, hstar] using h
        exact List.count_eq_zero.mpr hname
      · rw [matchChunks_cons hstar, Option.any_eq_true] at h
        obtain ⟨rest, hplace, hrest⟩ := h
        have hpieces : ∀ piece ∈ chunk.pieces, piece.IsPlain :=
          fun piece hmem => hplain piece (List.mem_append_left _ hmem)
        have hlater := ih htidy.tail
          (fun piece hmem => hplain piece (List.mem_append_right _ hmem)) hrest
        obtain ⟨passed, found, rfl, hpassed, hfit⟩ :=
          exists_fit?_of_place? hplace
        rw [List.count_append, List.count_append, ← hlater,
          List.count_eq_zero.mpr hpassed, Nat.zero_add]
        exact count_of_matchPieces? hpieces (matchPieces?_of_fit? hfit)

/-- Put chunks before others, of which the first has no star and goes on where
the last of these ends. -/
def glue : List Chunk → List Piece → List Chunk → List Chunk
  | [], more, later => ⟨false, more⟩ :: later
  | [chunk], more, later => ⟨chunk.starred, chunk.pieces ++ more⟩ :: later
  | chunk :: next :: chunks, more, later =>
    chunk :: glue (next :: chunks) more later

theorem foldr_addByte
    (t : Text) (more : List Piece) (later : List Chunk) :
    t.foldr addByte (⟨false, more⟩ :: later) =
      glue (chunksOf t) more later := by
  induction t with
  | nil => rfl
  | cons b t ih =>
      rw [List.foldr_cons, ih, chunksOf_cons]
      generalize chunksOf t = chunks
      rw [addByte, addByte]
      split
      · cases chunks with
        | nil => rfl
        | cons chunk chunks => cases chunks <;> rfl
      · cases chunks with
        | nil => rfl
        | cons chunk chunks =>
            obtain ⟨starred, pieces⟩ := chunk
            cases starred <;> cases chunks <;> rfl

theorem matchChunks_false_cons
    (pieces : List Piece) (chunks : List Chunk) (name : Text) :
    matchChunks (⟨false, pieces⟩ :: chunks) name =
      (fit? chunks.isEmpty pieces name).any (matchChunks chunks) := by
  rw [matchChunks_cons (by simp)]
  rfl

theorem matchChunks_true_singleton
    {pieces : List Piece} {name : Text} (hname : separator ∉ name) :
    matchChunks [⟨true, pieces⟩] name = true ↔
      pieces = [] ∨ (seek? true pieces name).isSome := by
  by_cases hpieces : pieces = []
  · simpa [matchChunks, hpieces] using hname
  · rw [matchChunks_cons (by simpa using hpieces), Option.any_eq_true,
      Option.isSome_iff_exists, or_iff_right hpieces]
    refine exists_congr fun rest => and_iff_left_of_imp fun hplace => ?_
    obtain ⟨passed, found, -, -, hfit⟩ := exists_fit?_of_place? hplace
    rw [(fit?_true_eq_some_iff.mp hfit).2]
    rfl

/-- A piece before some chunks joins the first of them or, if that has a star,
stands alone. -/
theorem exists_addPiece_eq
    (chunks : List Chunk) :
    ∃ more later,
      (∀ piece, addPiece piece chunks = ⟨false, piece :: more⟩ :: later) ∧
      ∀ name, matchChunks (⟨false, more⟩ :: later) name =
        matchChunks chunks name := by
  by_cases hhead : ∀ chunk ∈ chunks.head?, chunk.starred = true
  · refine ⟨[], chunks, fun piece => addPiece_of_starred piece hhead, ?_⟩
    intro name
    rw [matchChunks_false_cons, fit?, matchPieces?]
    cases chunks with
    | nil => cases name <;> rfl
    | cons chunk chunks => rfl
  · cases chunks with
    | nil => simp at hhead
    | cons chunk chunks =>
        obtain ⟨starred, pieces⟩ := chunk
        cases starred with
        | true => simp at hhead
        | false => exact ⟨pieces, chunks, fun _ => rfl, fun _ => rfl⟩

/-- A slash behind the last chunk has to stand where the chunk ends. -/
theorem matchChunks_append_separator_cons
    {chunk : Chunk} {name : Text}
    (hlocal : ∀ piece ∈ chunk.pieces, piece.IsLocal) (hname : separator ∉ name)
    (more : List Piece) (later : List Chunk) (t : Text) :
    matchChunks
        (⟨chunk.starred, chunk.pieces ++ .byte separator :: more⟩ :: later)
        (name ++ separator :: t) =
      (matchChunks [chunk] name &&
        matchChunks (⟨false, more⟩ :: later) t) := by
  obtain ⟨starred, pieces⟩ := chunk
  rw [matchChunks_false_cons more]
  cases starred with
  | true =>
      rw [matchChunks_cons (by simp), place?, if_pos rfl,
        seek?_append_separator_cons hlocal hname]
      by_cases hseek : pieces = [] ∨ (seek? true pieces name).isSome
      · rw [if_pos hseek, (matchChunks_true_singleton hname).mpr hseek,
          Bool.true_and]
      · have hnot : matchChunks [⟨true, pieces⟩] name = false :=
          Bool.eq_false_iff.mpr fun h =>
            hseek ((matchChunks_true_singleton hname).mp h)
        rw [if_neg hseek, hnot]
        rfl
  | false =>
      rw [matchChunks_false_cons, matchChunks_false_cons,
        fit?_append_separator_cons hlocal hname]
      by_cases hmatch : matchPieces? pieces name = some []
      · have hhere : fit? true pieces name = some [] :=
          fit?_true_eq_some_iff.mpr ⟨hmatch, rfl⟩
        rw [if_pos hmatch, List.isEmpty_nil, hhere]
        rfl
      · rw [if_neg hmatch, List.isEmpty_nil, fit?_true_of_ne hmatch]
        rfl

/-- Chunks that take no slash match up to the slash, and the others match
behind it. -/
theorem matchChunks_glue
    {chunks : List Chunk} {name : Text} (htidy : Tidy chunks)
    (hlocal : ∀ piece ∈ chunks.flatMap Chunk.pieces, piece.IsLocal)
    (hname : separator ∉ name)
    (more : List Piece) (later : List Chunk) (t : Text) :
    matchChunks (glue chunks (.byte separator :: more) later)
        (name ++ separator :: t) =
      (matchChunks chunks name && matchChunks (⟨false, more⟩ :: later) t) := by
  induction chunks generalizing name with
  | nil =>
      have hfit := fit?_append_separator_cons hlocal hname
        later.isEmpty more t
      rw [List.flatMap_nil, List.nil_append, matchPieces?] at hfit
      rw [glue, matchChunks_false_cons, matchChunks_false_cons, hfit,
        matchChunks]
      cases name <;> simp
  | cons chunk chunks ih =>
      rw [List.flatMap_cons] at hlocal
      have hpieces : ∀ piece ∈ chunk.pieces, piece.IsLocal :=
        fun piece hmem => hlocal piece (List.mem_append_left _ hmem)
      cases chunks with
      | nil =>
          exact matchChunks_append_separator_cons hpieces hname more later t
      | cons next chunks =>
          have hne : chunk.pieces ≠ [] := htidy.1
          have hstar : ¬(chunk.starred = true ∧ chunk.pieces = []) :=
            fun h => hne h.2
          have hglue : (glue (next :: chunks) (.byte separator :: more)
              later).isEmpty = false := by
            cases chunks <;> rfl
          -- The chunk finds its place before the slash, whatever follows it.
          have hplace : place? false chunk (name ++ separator :: t) =
              (place? false chunk name).map (· ++ separator :: t) := by
            rw [place?, place?, seek?_append_separator hpieces hne,
              fit?_append_separator hpieces]
            split <;> rfl
          rw [glue, matchChunks_cons hstar, matchChunks_cons hstar, hglue,
            List.isEmpty_cons, hplace]
          cases hrest : place? false chunk name with
          | none => rfl
          | some rest =>
              obtain ⟨passed, found, rfl, -, hfit⟩ :=
                exists_fit?_of_place? hrest
              have hfound : separator ∉ found :=
                fun hmem => hname (List.mem_append_right _ hmem)
              exact ih htidy.2
                (fun piece hmem => hlocal piece (List.mem_append_right _ hmem))
                (separator_notMem_of_matchPieces? hpieces hfound
                  (matchPieces?_of_fit? hfit))

end Glob

end AssetMinifier
