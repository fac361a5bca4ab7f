import AssetMinifier.Proofs.Minify.LineComment
import AssetMinifier.Proofs.Minify.Phrase

/-!
# Quoted words

A script is minified without regard to string literals.  A word in quotes is
kept as it is all the same, because neither a quote nor a word has anything to
tighten, unless the word is reserved: then it gets its blank inside the quotes.
-/

namespace AssetMinifier

open Comment (slash)
open Layout (LaidOut Rule separator)

/-- The quotes of a string literal. -/
inductive Quote where
  | single
  | double
  deriving DecidableEq, Repr

namespace Quote

/-- The character of a quote. -/
def char : Quote → Char
  | single => '\''
  | double => '"'

/-- A text between quotes. -/
def enclose (q : Quote) (t : Text) : Text :=
  String.utf8EncodeChar q.char ++ (t ++ String.utf8EncodeChar q.char)

theorem isSolid_char
    (q : Quote) :
    (Rune.char q.char).isSolid := by
  cases q <;> decide

theorem isWord_char
    (q : Quote) :
    (Rune.char q.char).isWord = false := by
  cases q <;> decide +kernel

theorem slash_notMem_char
    (q : Quote) :
    slash ∉ String.utf8EncodeChar q.char := by
  cases q <;> decide

end Quote

/-- Neighbours of the source between which the rule asks for no blank are
neighbours in the layout. -/
theorem Layout.LaidOut.eq_append_of_no_blank
    {rule : Rule} {source out : List Rune} (h : LaidOut rule source out)
    {s before after p q : List Rune} {a : Rune}
    (hsource : source = before ++ a :: (s ++ after))
    (ha : a.isSolid) (hs : ∀ b ∈ s, b.isSolid)
    (hrule : ∀ before a, ∀ b ∈ s, rule before a [] b = false)
    (hp : p.filter Rune.isSolid = before.filter Rune.isSolid)
    (hout : out = p ++ a :: q) :
    ∃ rest, q = s ++ rest := by
  induction s generalizing before a p q with
  | nil => exact ⟨q, rfl⟩
  | cons b s ih =>
      have hb := hs b List.mem_cons_self
      have hnone : ∀ r ∈ ([] : List Rune), r.isSpace := by simp
      obtain ⟨rest, hrest⟩ :=
        h.eq_separator_append hsource ha hb hnone hp hout
      rw [hrule before a b List.mem_cons_self] at hrest
      -- The front of the source and that of the layout grow by `a`.
      have hsource' : source = (before ++ [a]) ++ b :: (s ++ after) := by
        rw [hsource, List.append_assoc, List.cons_append, List.singleton_append]
      have hout' : out = (p ++ [a]) ++ b :: rest := by
        rw [hout, hrest, List.append_assoc]
        rfl
      have hp' : (p ++ [a]).filter Rune.isSolid =
          (before ++ [a]).filter Rune.isSolid := by
        rw [List.filter_append, List.filter_append, hp]
      obtain ⟨rest', rfl⟩ := ih hsource' hb
        (fun c hc => hs c (List.mem_cons_of_mem b hc))
        (fun before a c hc => hrule before a c (List.mem_cons_of_mem b hc))
        hp' hout'
      exact ⟨rest', hrest⟩

/-- A stretch of such neighbours, and what comes between it and the next
rune. -/
theorem Layout.LaidOut.exists_stretch
    {rule : Rule} {source out : List Rune} (h : LaidOut rule source out)
    {s before after : List Rune} {a z b : Rune}
    (hsource : source = before ++ a :: (s ++ z :: b :: after))
    (ha : a.isSolid) (hs : ∀ c ∈ s ++ [z], c.isSolid) (hb : b.isSolid)
    (hrule : ∀ before a, ∀ c ∈ s ++ [z], rule before a [] c = false) :
    ∃ front rest, out = front ++ a ::
      (s ++ z :: (separator (rule (before ++ a :: s) z [] b) ++ b :: rest)) := by
  obtain ⟨front, rest, -, hfront, hout, -⟩ :=
    LaidOut.exists_common_front h h before a _ hsource ha
  have hsplit : source = before ++ a :: ((s ++ [z]) ++ b :: after) := by
    rw [hsource, List.append_assoc, List.singleton_append]
  obtain ⟨rest, rfl⟩ :=
    h.eq_append_of_no_blank hsplit ha hs hrule hfront hout
  -- Behind the last rune of the stretch comes what the rule says.
  have hnone : ∀ r ∈ ([] : List Rune), r.isSpace := by simp
  have hlast : source = (before ++ a :: s) ++ z :: ([] ++ b :: after) := by
    rw [hsource]
    simp
  have hout' : out = (front ++ a :: s) ++ z :: rest := by
    rw [hout]
    simp
  have hfront' : (front ++ a :: s).filter Rune.isSolid =
      (before ++ a :: s).filter Rune.isSolid := by
    rw [List.filter_append, List.filter_append, hfront]
  obtain ⟨after', rfl⟩ := h.eq_separator_append hlast
    (hs z (by simp)) hb hnone hfront' hout'
  refine ⟨front, after', ?_⟩
  rw [hout, List.append_assoc, List.singleton_append]

theorem rtakeWhile_append_word
    (before : List Rune) {r : Rune} (hr : r.isWord = false)
    {word : List Rune} (hword : ∀ r ∈ word, r.isWord) :
    (before ++ [r] ++ word).rtakeWhile Rune.isWord = word := by
  induction word using List.reverseRecOn with
  | nil =>
      rw [List.append_nil, List.rtakeWhile_concat_neg]
      simp [hr]
  | append_singleton word a ih =>
      have ha : a.isWord := hword a (by simp)
      rw [← List.append_assoc, List.rtakeWhile_concat_pos _ _ _ ha,
        ih fun q hq => hword q (List.mem_append_left [a] hq)]

namespace Script

theorem needsBlank_of_isWord
    (before : List Rune) (a : Rune) {b : Rune} (hb : b.isWord) :
    needsBlank before a [] b = false := by
  simp [needsBlank, leavesBlank, hb]

/-- The blank before the closing quote. -/
theorem needsBlank_quote
    {before word init : List Rune} {a : Rune} (q : Quote)
    (hword : ∀ r ∈ word, r.isWord) (hinit : word = init ++ [a]) :
    needsBlank (before ++ .char q.char :: init) a [] (.char q.char) =
      Keyword.isOneOf keywords word := by
  have hrun : (before ++ .char q.char :: init ++ [a]).rtakeWhile Rune.isWord =
      word := by
    have hsplit : before ++ .char q.char :: init ++ [a] =
        before ++ [.char q.char] ++ word := by
      rw [hinit]
      simp
    rw [hsplit]
    exact rtakeWhile_append_word _ q.isWord_char hword
  rw [needsBlank, hrun]
  simp [leavesBlank, q.isWord_char]

theorem stripBlocks_stripLines_of_notMem
    {t : Text} (h : slash ∉ t) :
    Comment.stripBlocks (Comment.stripLines t) = t := by
  have hlines : Comment.stripLines (t ++ []) = t ++ [] :=
    Comment.stripLinesFrom_append_of_notMem h none []
  have hblocks : Comment.stripBlocks (t ++ []) = t ++ [] :=
    Comment.stripBlocks_append_of_notMem h []
  rw [List.append_nil] at hlines hblocks
  rw [hlines, hblocks]

theorem isOneOf_keywords_runes
    {w : Text} :
    Keyword.isOneOf keywords w.runes ↔ w ∈ keywords := by
  rw [Keyword.isOneOf, List.contains_iff_mem, List.mem_map]
  constructor
  · rintro ⟨keyword, hkeyword, hrunes⟩
    rwa [← Text.runes_injective hrunes]
  · intro hw
    exact ⟨w, hw, rfl⟩

/-- A quoted word of a minified script, with or without a blank before the
closing quote. -/
theorem enclose_infix_minify
    (q : Quote) (w : Word) {p r : Text} (hp : slash ∉ p) (hr : slash ∉ r) :
    q.enclose (w.text ++
        Text.ofRunes (separator (Keyword.isOneOf keywords w.text.runes))) <:+:
      minify (p ++ (q.enclose w.text ++ r)) := by
  have hslash : slash ∉ p ++ (q.enclose w.text ++ r) := by
    simp only [Quote.enclose, List.mem_append, not_or]
    exact ⟨hp, ⟨q.slash_notMem_char, w.slash_notMem, q.slash_notMem_char⟩, hr⟩
  obtain ⟨s, z, hword⟩ : ∃ s z, w.text.runes = s ++ [z] := by
    rcases List.eq_nil_or_concat w.text.runes with hnil | ⟨s, z, hs⟩
    · exact absurd hnil w.isProper.1
    · exact ⟨s, z, by rw [hs, List.concat_eq_append]⟩
  have hrunes : (p ++ (q.enclose w.text ++ r)).runes =
      p.runes ++ .char q.char :: (s ++ z :: .char q.char :: r.runes) := by
    rw [Quote.enclose, List.append_assoc, Text.runes_append_utf8EncodeChar,
      List.append_assoc, Text.runes_append_utf8EncodeChar, hword]
    simp
  have hwords : ∀ c ∈ s ++ [z], c.isWord := hword ▸ w.isProper.2
  have hlaid := laidOut_minify (p ++ (q.enclose w.text ++ r))
  rw [stripBlocks_stripLines_of_notMem hslash] at hlaid
  obtain ⟨front, rest, hout⟩ := hlaid.exists_stretch hrunes q.isSolid_char
    (fun c hc => Rune.isSolid_of_isWord (hwords c hc)) q.isSolid_char
    (fun before a c hc => needsBlank_of_isWord before a (hwords c hc))
  rw [needsBlank_quote q w.isProper.2 hword] at hout
  have htext : w.text = Text.ofRunes (s ++ [z]) := by
    rw [← hword, Text.ofRunes_runes]
  refine ⟨Text.ofRunes front, Text.ofRunes rest, ?_⟩
  rw [← Text.ofRunes_runes (minify _), hout, Quote.enclose, htext]
  simp [Text.ofRunes, Rune.bytes]

/-- A quoted word that is not reserved is kept as it is, and a reserved one gets
its blank before the closing quote. -/
theorem minify_keeps_quoted_word
    (q : Quote) (w : Word) {p r : Text} (hp : slash ∉ p) (hr : slash ∉ r) :
    (w.text ∉ keywords →
      q.enclose w.text <:+: minify (p ++ (q.enclose w.text ++ r))) ∧
    (w.text ∈ keywords →
      q.enclose (w.text ++ [0x20]) <:+:
        minify (p ++ (q.enclose w.text ++ r))) := by
  have hkept := enclose_infix_minify q w hp hr
  constructor
  · intro hw
    have hfalse : Keyword.isOneOf keywords w.text.runes = false := by
      rwa [← Bool.not_eq_true, isOneOf_keywords_runes]
    rw [hfalse] at hkept
    have hnone : Text.ofRunes (separator false) = [] := rfl
    rwa [hnone, List.append_nil] at hkept
  · intro hw
    rwa [isOneOf_keywords_runes.mpr hw] at hkept

/-- The comparison with a quoted word, and with a reserved one behind a stray
byte. -/
theorem minify_keeps_quoted_word_typeof :
    Text.ofString "'string'" <:+:
        minify (Text.ofString "typeof x === 'string'") ∧
      Text.ofString "\"new \"" <:+:
        minify ([0xFF] ++ Text.ofString "\"new\" + x") := by
  have hstring := minify_keeps_quoted_word .single
    ⟨"string", by decide +kernel⟩
    (p := Text.ofString "typeof x === ") (r := []) (by decide) (by decide)
  have hnew := minify_keeps_quoted_word .double ⟨"new", by decide +kernel⟩
    (p := [0xFF]) (r := Text.ofString " + x") (by decide) (by decide)
  exact ⟨hstring.1 (by decide), hnew.2 (by decide)⟩

/-- A reserved word in quotes is not kept as it is. -/
theorem minify_quoted_return :
    minify (Text.ofString "'return'") = Text.ofString "'return '" ∧
      ¬∀ (q : Quote) (w : Word) (p r : Text), slash ∉ p → slash ∉ r →
        q.enclose w.text <:+: minify (p ++ (q.enclose w.text ++ r)) := by
  have hminify : minify (Text.ofString "'return'") =
      Text.ofString "'return '" := by
    decide +kernel
  refine ⟨hminify, fun hall => ?_⟩
  have hkept := hall .single ⟨"return", by decide +kernel⟩ [] []
    List.not_mem_nil List.not_mem_nil
  have hsource : [] ++ (Quote.single.enclose (Text.ofString "return") ++ []) =
      Text.ofString "'return'" := by
    decide
  rw [hsource, hminify] at hkept
  exact absurd hkept (by decide)

end Script

end AssetMinifier
