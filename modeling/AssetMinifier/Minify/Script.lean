import AssetMinifier.Minify.Comment
import AssetMinifier.Minify.Keyword
import AssetMinifier.Minify.Pass
import AssetMinifier.Minify.Spacing

/-!
# Scripts

A script loses its comments, then its white space around operators, and then
gets back the blank behind each reserved word that the operators took away.
-/

namespace AssetMinifier.Script

/-- The reserved words that must stay separated from what follows them. -/
def keywords : List Text :=
  ["function", "return", "var", "let", "const", "if", "else", "for", "while",
    "do", "switch", "case", "break", "continue", "new", "typeof",
    "instanceof"]

/-- The operators, which need no white space on either side. -/
def operators : String :=
  "\x7b\x7d;:,=<>+-*/%&|!?"

/-- The passes in order. -/
def passes : List Pass :=
  [Comment.stripLines,
    Comment.stripBlocks,
    Text.mapRunes Spacing.collapse,
    Text.mapRunes (Spacing.tightenAround operators)] ++
  keywords.map Keyword.separate ++
  [Text.trim]

/-- Remove comments and insignificant white space from a script. -/
def minify (source : Text) : Text :=
  Pass.run passes source

end AssetMinifier.Script
