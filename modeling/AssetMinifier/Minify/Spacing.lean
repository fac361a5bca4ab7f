import AssetMinifier.Text.Space

/-!
# Spacing

The passes that remove white space without looking at comments: runs of it
become one blank, and it vanishes next to characters that separate by
themselves.
-/

namespace AssetMinifier.Spacing

/-- Turn every run of white space into one blank, given whether the rune
before was white space. -/
def collapseFrom : Bool → List Rune → List Rune
  | _, [] => []
  | inRun, r :: rs =>
    if r.isSpace then
      if inRun then collapseFrom true rs
      else Rune.blank :: collapseFrom true rs
    else r :: collapseFrom false rs

/-- Turn every run of white space into one blank. -/
def collapse (rs : List Rune) : List Rune :=
  collapseFrom false rs

/-- The first rune that is not white space. -/
def firstSolid? (rs : List Rune) : Option Rune :=
  (rs.dropWhile Rune.isSpace).head?

/-- Drop every run of white space that follows a rune in `opens` or precedes
one in `closes`, given whether the nearest rune before that is not white space
is in `opens`. -/
def tightenFrom (opens closes : Rune → Bool) : Bool → List Rune → List Rune
  | _, [] => []
  | afterOpen, r :: rs =>
    if r.isSpace then
      if afterOpen || (firstSolid? rs).any closes then
        tightenFrom opens closes afterOpen rs
      else r :: tightenFrom opens closes afterOpen rs
    else r :: tightenFrom opens closes (opens r) rs

/-- Drop every run of white space that follows a rune in `opens` or precedes
one in `closes`. -/
def tighten (opens closes : Rune → Bool) (rs : List Rune) : List Rune :=
  tightenFrom opens closes false rs

/-- Whether a rune is one of the characters of a string. -/
def oneOf (s : String) (r : Rune) : Bool :=
  s.toList.any fun c => r = .char c

/-- No rune at all. -/
def never (_ : Rune) : Bool :=
  false

/-- Drop white space on both sides of the characters of a string. -/
def tightenAround (s : String) (rs : List Rune) : List Rune :=
  tighten (oneOf s) (oneOf s) rs

end AssetMinifier.Spacing
