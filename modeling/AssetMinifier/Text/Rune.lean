import AssetMinifier.Text.Basic

/-!
# Runes

A text is read as a sequence of runes: a rune is a character in its UTF-8
form or, where the bytes encode no character, one stray byte.  Writing the
runes back gives the text again, whatever its bytes are.
-/

namespace AssetMinifier

/-- One step of reading a text as characters. -/
inductive Rune where
  /-- A character in its UTF-8 form. -/
  | char (c : Char)
  /-- A byte at which no encoded character starts. -/
  | stray (b : UInt8)
  deriving DecidableEq, Repr

namespace Rune

/-- The bytes of a rune. -/
def bytes : Rune → Text
  | char c => String.utf8EncodeChar c
  | stray b => [b]

/-- The code point of a rune; a stray byte counts as the replacement
character. -/
def codePoint : Rune → Nat
  | char c => c.toNat
  | stray _ => 0xFFFD

/-- The character of a rune, if it is one. -/
def char? : Rune → Option Char
  | char c => some c
  | stray _ => none

/-- The runes of a string. -/
def ofString (s : String) : List Rune :=
  s.toList.map char

end Rune

namespace Text

/-- The character whose UTF-8 form starts the text, if there is one. -/
def firstChar? (t : Text) : Option Char :=
  (t.take 4).toByteArray.utf8DecodeChar? 0

/-- The runes of a text, when the given number of bytes still belong to a
character that was read already. -/
def runesFrom : Nat → Text → List Rune
  | _, [] => []
  | skip + 1, _ :: t => runesFrom skip t
  | 0, b :: t =>
    match firstChar? (b :: t) with
    | some c => .char c :: runesFrom (c.utf8Size - 1) t
    | none => .stray b :: runesFrom 0 t

/-- The first rune of a text that starts with a byte. -/
def firstRune (b : UInt8) (t : Text) : Rune :=
  match firstChar? (b :: t) with
  | some c => .char c
  | none => .stray b

/-- The runes of a text. -/
def runes (t : Text) : List Rune :=
  runesFrom 0 t

/-- The text that consists of the given runes. -/
def ofRunes (rs : List Rune) : Text :=
  rs.flatMap Rune.bytes

/-- Apply a function of rune sequences to a text. -/
def mapRunes (f : List Rune → List Rune) (t : Text) : Text :=
  ofRunes (f t.runes)

/-- A text is well-formed if all its runes are characters. -/
def isWellFormed (t : Text) : Bool :=
  t.runes.all fun r => r.char?.isSome

/-- The string that a well-formed text encodes. -/
def toString? (t : Text) : Option String :=
  (t.runes.mapM Rune.char?).map String.ofList

end Text

end AssetMinifier
