import AssetMinifier.Minify.Comment
import AssetMinifier.Minify.Pass
import AssetMinifier.Minify.Spacing

/-!
# Stylesheets

A stylesheet is minified by six passes and a final trim.  Punctuation inside
quoted strings and addresses is treated like any other.
-/

namespace AssetMinifier.Stylesheet

/-- The punctuation of declarations and selectors, which needs no white space
on either side. -/
def punctuation : String :=
  "\x7b\x7d;:,>+~"

/-- Drop every semicolon of a run that is directly followed by a closing
brace. -/
def dropSemicolons : List Rune → List Rune
  | [] => []
  | r :: rs =>
    if r = .char ';' &&
        (rs.dropWhile (· = .char ';')).head? = some (.char '\x7d') then
      dropSemicolons rs
    else r :: dropSemicolons rs

/-- The passes in order.  A blank before an opening parenthesis stays, since
a media query needs it. -/
def passes : List Pass :=
  [Comment.stripBlocks,
    Text.mapRunes Spacing.collapse,
    Text.mapRunes (Spacing.tightenAround punctuation),
    Text.mapRunes (Spacing.tighten (Spacing.oneOf "(") Spacing.never),
    Text.mapRunes (Spacing.tighten Spacing.never (Spacing.oneOf ")")),
    Text.mapRunes dropSemicolons,
    Text.trim]

/-- Remove comments and insignificant white space from a stylesheet. -/
def minify (source : Text) : Text :=
  Pass.run passes source

end AssetMinifier.Stylesheet
