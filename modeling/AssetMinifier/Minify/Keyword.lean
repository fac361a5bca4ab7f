import AssetMinifier.Minify.Pass
import AssetMinifier.Text.Word

/-!
# Reserved words

A reserved word stays separated from what follows it: where a rune that is
neither white space nor part of a word follows directly, a blank is put in
between.  A reserved word that is the end of a longer word is left alone.
-/

namespace AssetMinifier.Keyword

/-- The boundary rune directly behind `keyword` at the front of `rs`, if there
is one. -/
def follower? (keyword rs : List Rune) : Option Rune :=
  if keyword.isPrefixOf rs then
    (rs.drop keyword.length).head?.filter Rune.isBoundary
  else none

/-- The rule for one keyword, when the given number of runes are written
already and `prev` is the rune before.  Occurrences are taken from left to
right and include the boundary behind the keyword; one that a word rune
precedes is passed over unchanged. -/
def separateFrom (keyword : List Rune) :
    Nat → Option Rune → List Rune → List Rune
  | _, _, [] => []
  | skip + 1, _, r :: rs => separateFrom keyword skip (some r) rs
  | 0, prev, r :: rs =>
    match follower? keyword (r :: rs) with
    | none => r :: separateFrom keyword 0 (some r) rs
    | some next =>
      let gap := if prev.any Rune.isWord then [] else [Rune.blank]
      keyword ++ gap ++ next :: separateFrom keyword keyword.length (some r) rs

/-- Put a blank between a keyword and a boundary rune that follows it. -/
def separate (keyword : Text) (t : Text) : Text :=
  Text.mapRunes (separateFrom keyword.runes 0 none) t

/-- Apply the rule for each keyword of a list in turn. -/
def separateAll (keywords : List Text) (t : Text) : Text :=
  Pass.run (keywords.map separate) t

end AssetMinifier.Keyword
