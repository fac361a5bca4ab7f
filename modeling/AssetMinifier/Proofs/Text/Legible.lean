import AssetMinifier.Text.Rune
import Mathlib.Data.List.Infix

/-!
# Reading a text as runes and writing it back

Every text is the sequence of its runes.  The converse needs a condition: a
sequence of runes is *legible* if its bytes are read as these same runes.  It
can only fail where stray bytes stand next to each other and form a character
together, so legibility is a condition on the runs of stray bytes alone.
-/

namespace AssetMinifier

namespace Text

open String (utf8EncodeChar)

/-! ## The first character of a text -/

theorem firstChar?_eq_some_iff
    {t : Text} {c : Char} :
    firstChar? t = some c ↔ ∃ rest, t = utf8EncodeChar c ++ rest := by
  unfold firstChar?
  constructor
  · intro h
    obtain ⟨l, hl⟩ := ByteArray.exists_of_utf8DecodeChar?_eq_some h
    have htake : t.take 4 = utf8EncodeChar c ++ l.data.toList := by
      have hdata := congrArg (fun bytes => bytes.data.toList) hl
      simpa using hdata
    refine ⟨l.data.toList ++ t.drop 4, ?_⟩
    rw [← List.append_assoc, ← htake, List.take_append_drop]
  · rintro ⟨rest, rfl⟩
    have hlength : (utf8EncodeChar c).length ≤ 4 := by
      rw [String.length_utf8EncodeChar]
      exact c.utf8Size_le_four
    rw [List.take_append, List.take_of_length_le hlength,
      List.toByteArray_append]
    exact ByteArray.utf8DecodeChar?_utf8EncodeChar_append

theorem firstChar?_utf8EncodeChar_append
    (c : Char) (t : Text) :
    firstChar? (utf8EncodeChar c ++ t) = some c :=
  firstChar?_eq_some_iff.mpr ⟨t, rfl⟩

theorem utf8EncodeChar_eq_cons
    (c : Char) :
    ∃ b tail, utf8EncodeChar c = b :: tail ∧
      tail.length = c.utf8Size - 1 := by
  have hlength := String.length_utf8EncodeChar c
  have hpos := c.utf8Size_pos
  cases h : utf8EncodeChar c with
  | nil =>
      rw [h, List.length_nil] at hlength
      omega
  | cons b tail =>
      rw [h, List.length_cons] at hlength
      exact ⟨b, tail, rfl, by omega⟩

/-- Two characters whose UTF-8 forms start the same text are the same. -/
theorem utf8EncodeChar_append_inj
    {c d : Char} {s t : Text}
    (h : utf8EncodeChar c ++ s = utf8EncodeChar d ++ t) :
    c = d := by
  have hc := firstChar?_utf8EncodeChar_append c s
  rw [h, firstChar?_utf8EncodeChar_append] at hc
  exact (Option.some.inj hc).symm

theorem not_isUTF8FirstByte_of_mem_tail
    {c : Char} {b x : UInt8} {tail : Text}
    (hc : utf8EncodeChar c = b :: tail) (hx : x ∈ tail) :
    ¬x.IsUTF8FirstByte := by
  obtain ⟨i, hi, rfl⟩ := List.mem_iff_getElem.mp hx
  have hlength : i + 1 < (utf8EncodeChar c).length := by
    rw [hc]
    exact Nat.succ_lt_succ hi
  have hfirst :=
    @UInt8.isUTF8FirstByte_getElem_utf8EncodeChar c (i + 1) hlength
  simp only [hc, List.getElem_cons_succ] at hfirst
  simp [hfirst]

theorem isUTF8FirstByte_of_cons
    {c : Char} {b : UInt8} {tail : Text}
    (hc : utf8EncodeChar c = b :: tail) :
    b.IsUTF8FirstByte := by
  have hfirst := UInt8.isUTF8FirstByte_getElem_zero_utf8EncodeChar (c := c)
  simpa only [hc, List.getElem_cons_zero] using hfirst

/-- A byte that is a character by itself occurs in no other character. -/
theorem mem_utf8EncodeChar_iff_of_singleton
    {c d : Char} {b : UInt8}
    (hd : utf8EncodeChar d = [b]) :
    b ∈ utf8EncodeChar c ↔ c = d := by
  constructor
  · intro hb
    obtain ⟨x, tail, hc, -⟩ := utf8EncodeChar_eq_cons c
    rw [hc, List.mem_cons] at hb
    rcases hb with rfl | hb
    · apply utf8EncodeChar_append_inj (s := []) (t := tail)
      rw [hc, hd, List.append_nil, List.singleton_append]
    · exact (not_isUTF8FirstByte_of_mem_tail hc hb
        (isUTF8FirstByte_of_cons hd)).elim
  · rintro rfl
    rw [hd]
    exact List.mem_singleton_self b

/-! ## Writing the runes of a text -/

theorem runesFrom_length_append
    (u t : Text) :
    runesFrom u.length (u ++ t) = t.runes := by
  induction u with
  | nil => rfl
  | cons b u ih => simpa [runesFrom] using ih

theorem ofRunes_runesFrom
    (skip : Nat) (t : Text) :
    ofRunes (runesFrom skip t) = t.drop skip := by
  induction t generalizing skip with
  | nil => simp [runesFrom, ofRunes]
  | cons b t ih =>
      cases skip with
      | succ skip =>
          rw [runesFrom, ih, List.drop_succ_cons]
      | zero =>
          rw [runesFrom, List.drop_zero]
          cases h : firstChar? (b :: t) with
          | none =>
              simpa [ofRunes, Rune.bytes] using ih 0
          | some c =>
              -- The bytes of `c` are `b` and the ones that are skipped next.
              obtain ⟨rest, hrest⟩ := firstChar?_eq_some_iff.mp h
              obtain ⟨x, tail, hc, htail⟩ := utf8EncodeChar_eq_cons c
              rw [hc, List.cons_append, List.cons.injEq] at hrest
              obtain ⟨rfl, rfl⟩ := hrest
              have hdrop := ih (c.utf8Size - 1)
              rw [← htail, List.drop_left] at hdrop
              simp only [ofRunes, List.flatMap_cons, Rune.bytes, hc] at hdrop ⊢
              rw [← htail, hdrop, List.cons_append]

/-- The runes of a text are the whole text. -/
@[simp] theorem ofRunes_runes
    (t : Text) :
    ofRunes t.runes = t :=
  ofRunes_runesFrom 0 t

theorem ofRunes_append
    (rs qs : List Rune) :
    ofRunes (rs ++ qs) = ofRunes rs ++ ofRunes qs :=
  List.flatMap_append

theorem runes_injective
    {s t : Text} (h : s.runes = t.runes) :
    s = t := by
  rw [← ofRunes_runes s, h, ofRunes_runes]

theorem runes_utf8EncodeChar_append
    (c : Char) (t : Text) :
    runes (utf8EncodeChar c ++ t) = .char c :: t.runes := by
  have hfirst := firstChar?_utf8EncodeChar_append c t
  obtain ⟨b, tail, hc, htail⟩ := utf8EncodeChar_eq_cons c
  rw [hc, List.cons_append] at hfirst ⊢
  rw [runes, runesFrom, hfirst]
  simp only [← htail, runesFrom_length_append]

/-! ## Legible sequences of runes -/

/-- A sequence of runes is legible if reading its bytes gives it back. -/
def Legible (rs : List Rune) : Prop :=
  (ofRunes rs).runes = rs

theorem legible_runes
    (t : Text) :
    Legible t.runes := by
  rw [Legible, ofRunes_runes]

theorem legible_nil : Legible [] :=
  rfl

theorem legible_char_cons
    {c : Char} {rs : List Rune} :
    Legible (.char c :: rs) ↔ Legible rs := by
  have hread :
      (ofRunes (.char c :: rs)).runes = .char c :: (ofRunes rs).runes :=
    runes_utf8EncodeChar_append c (ofRunes rs)
  rw [Legible, hread, List.cons.injEq, Legible]
  exact and_iff_right rfl

/-- Characters in front change nothing about what follows. -/
theorem legible_append_of_isSome_char?
    {rs : List Rune} (h : ∀ r ∈ rs, r.char?.isSome) {qs : List Rune} :
    Legible (rs ++ qs) ↔ Legible qs := by
  induction rs with
  | nil => rfl
  | cons r rs ih =>
      rw [List.forall_mem_cons] at h
      cases r with
      | stray b => exact absurd h.1 (by simp [Rune.char?])
      | char c => rw [List.cons_append, legible_char_cons, ih h.2]

theorem legible_of_isSome_char?
    {rs : List Rune} (h : ∀ r ∈ rs, r.char?.isSome) :
    Legible rs := by
  rw [← List.append_nil rs, legible_append_of_isSome_char? h]
  exact legible_nil

/-- The stray bytes at the front of a sequence of runes. -/
def strayFront : List Rune → Text
  | .stray b :: rs => b :: strayFront rs
  | _ => []

theorem strayFront_prefix
    (rs : List Rune) :
    strayFront rs <+: ofRunes rs := by
  induction rs with
  | nil => exact List.nil_prefix
  | cons r rs ih =>
      cases r with
      | char c => exact List.nil_prefix
      | stray b => exact (List.prefix_cons_inj b).mpr ih

/-- Bytes that start no character reach into stray bytes only. -/
theorem prefix_strayFront
    {tail : Text} {rs : List Rune}
    (htail : ∀ x ∈ tail, ¬x.IsUTF8FirstByte)
    (h : tail <+: ofRunes rs) :
    tail <+: strayFront rs := by
  induction rs generalizing tail with
  | nil => exact h
  | cons r rs ih =>
      cases tail with
      | nil => exact List.nil_prefix
      | cons x tail =>
          cases r with
          | char c =>
              obtain ⟨b, rest, hc, -⟩ := utf8EncodeChar_eq_cons c
              have hcons : x :: tail <+: b :: (rest ++ ofRunes rs) := by
                simpa [ofRunes, Rune.bytes, hc] using h
              obtain ⟨rfl, -⟩ := List.cons_prefix_cons.mp hcons
              exact (htail x List.mem_cons_self
                (isUTF8FirstByte_of_cons hc)).elim
          | stray b =>
              have hcons : x :: tail <+: b :: ofRunes rs := h
              obtain ⟨rfl, hrest⟩ := List.cons_prefix_cons.mp hcons
              refine List.cons_prefix_cons.mpr ⟨rfl, ih ?_ hrest⟩
              exact fun y hy => htail y (List.mem_cons_of_mem x hy)

theorem firstChar?_cons_ofRunes
    (b : UInt8) (rs : List Rune) :
    firstChar? (b :: ofRunes rs) = firstChar? (b :: strayFront rs) := by
  apply Option.ext
  intro c
  rw [firstChar?_eq_some_iff, firstChar?_eq_some_iff]
  obtain ⟨x, tail, hc, -⟩ := utf8EncodeChar_eq_cons c
  rw [hc]
  constructor
  · rintro ⟨rest, hrest⟩
    rw [List.cons_append, List.cons.injEq] at hrest
    obtain ⟨rfl, hrest⟩ := hrest
    obtain ⟨more, hmore⟩ := prefix_strayFront
      (fun y hy => not_isUTF8FirstByte_of_mem_tail hc hy) ⟨rest, hrest.symm⟩
    exact ⟨more, by rw [List.cons_append, hmore]⟩
  · rintro ⟨rest, hrest⟩
    obtain ⟨more, hmore⟩ := strayFront_prefix rs
    refine ⟨rest ++ more, ?_⟩
    rw [← hmore, ← List.cons_append, hrest, List.append_assoc]

theorem legible_stray_cons
    {b : UInt8} {rs : List Rune} :
    Legible (.stray b :: rs) ↔
      firstChar? (b :: strayFront rs) = none ∧ Legible rs := by
  have hread : ofRunes (.stray b :: rs) = b :: ofRunes rs := rfl
  rw [Legible, hread, runes, runesFrom, firstChar?_cons_ofRunes]
  cases h : firstChar? (b :: strayFront rs) with
  | none => simp [Legible, runes]
  | some c => simp

theorem strayFront_append_char
    (rs : List Rune) (c : Char) (qs : List Rune) :
    strayFront (rs ++ .char c :: qs) = strayFront rs := by
  induction rs with
  | nil => rfl
  | cons r rs ih =>
      cases r with
      | char d => rfl
      | stray b => exact congrArg (b :: ·) ih

/-- A character separates what stands before it from what follows. -/
theorem legible_append_char
    {rs : List Rune} {c : Char} {qs : List Rune} :
    Legible (rs ++ .char c :: qs) ↔ Legible rs ∧ Legible qs := by
  induction rs with
  | nil => simp [legible_char_cons, legible_nil]
  | cons r rs ih =>
      cases r with
      | char d =>
          rw [List.cons_append, legible_char_cons, legible_char_cons, ih]
      | stray b =>
          rw [List.cons_append, legible_stray_cons, legible_stray_cons,
            strayFront_append_char, ih, and_assoc]

/-- A character divides the runes of a text. -/
theorem runes_append_utf8EncodeChar
    (s : Text) (c : Char) (t : Text) :
    runes (s ++ (utf8EncodeChar c ++ t)) = s.runes ++ .char c :: t.runes := by
  have hlegible : Legible (s.runes ++ .char c :: t.runes) :=
    legible_append_char.mpr ⟨legible_runes s, legible_runes t⟩
  have hbytes : ofRunes (s.runes ++ .char c :: t.runes) =
      s ++ (utf8EncodeChar c ++ t) := by
    rw [ofRunes_append, ofRunes_runes]
    simpa [ofRunes, Rune.bytes] using ofRunes_runes t
  rw [← hbytes]
  exact hlegible

theorem strayFront_prefix_append
    (rs qs : List Rune) :
    strayFront rs <+: strayFront (rs ++ qs) := by
  induction rs with
  | nil => exact List.nil_prefix
  | cons r rs ih =>
      cases r with
      | char c => exact List.nil_prefix
      | stray b => exact (List.prefix_cons_inj b).mpr ih

/-- What is legible can be taken apart anywhere between two runes. -/
theorem Legible.of_append
    {rs qs : List Rune} (h : Legible (rs ++ qs)) :
    Legible rs ∧ Legible qs := by
  induction rs with
  | nil => exact ⟨legible_nil, h⟩
  | cons r rs ih =>
      cases r with
      | char c =>
          rw [List.cons_append, legible_char_cons] at h
          rw [legible_char_cons]
          exact ih h
      | stray b =>
          rw [List.cons_append, legible_stray_cons] at h
          rw [legible_stray_cons]
          obtain ⟨hrs, hqs⟩ := ih h.2
          refine ⟨⟨?_, hrs⟩, hqs⟩
          -- A character of fewer bytes would be one of all of them.
          obtain ⟨more, hmore⟩ := strayFront_prefix_append rs qs
          rw [← hmore, ← List.cons_append] at h
          apply Option.eq_none_iff_forall_ne_some.mpr
          intro c hc
          obtain ⟨rest, hrest⟩ := firstChar?_eq_some_iff.mp hc
          have hlonger := firstChar?_utf8EncodeChar_append c (rest ++ more)
          rw [← List.append_assoc, ← hrest, h.1] at hlonger
          cases hlonger

theorem Legible.of_isInfix
    {rs qs : List Rune} (h : Legible qs) (hpart : rs <:+: qs) :
    Legible rs := by
  obtain ⟨before, after, rfl⟩ := hpart
  exact h.of_append.1.of_append.2

end Text

end AssetMinifier
