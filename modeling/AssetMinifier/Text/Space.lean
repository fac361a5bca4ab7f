import AssetMinifier.Text.Rune
import AssetMinifier.Text.CodeRange

/-!
# White space

The white space characters are those with the Unicode property of that name.
A stray byte is never white space.
-/

namespace AssetMinifier

/-- The white space characters. -/
def spaceRanges : List CodeRange :=
  CodeRange.ofPairs
    [(0x9, 0xD), (0x20, 0x20), (0x85, 0x85), (0xA0, 0xA0), (0x1680, 0x1680),
      (0x2000, 0x200A), (0x2028, 0x2029), (0x202F, 0x202F), (0x205F, 0x205F),
      (0x3000, 0x3000)]

namespace Rune

/-- Whether a rune is white space. -/
def isSpace : Rune → Bool
  | char c => CodeRange.contains spaceRanges c.toNat
  | stray _ => false

/-- The blank that stands for a run of white space. -/
def blank : Rune :=
  char ' '

end Rune

namespace Text

/-- Drop white space at the front of a rune sequence. -/
def trimStartRunes (rs : List Rune) : List Rune :=
  rs.dropWhile Rune.isSpace

/-- Drop white space at both ends of a rune sequence. -/
def trimRunes (rs : List Rune) : List Rune :=
  (trimStartRunes (trimStartRunes rs).reverse).reverse

/-- Drop white space at both ends of a text. -/
def trim (t : Text) : Text :=
  mapRunes trimRunes t

end Text

end AssetMinifier
