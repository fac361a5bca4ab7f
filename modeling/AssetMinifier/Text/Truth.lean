import AssetMinifier.Text.Basic

/-!
# Truth values in texts
-/

namespace AssetMinifier.Text

/-- The truth value that a text spells. -/
def truth? (t : Text) : Option Bool :=
  if (["1", "t", "T", "TRUE", "true", "True"] : List Text).contains t then some true
  else if (["0", "f", "F", "FALSE", "false", "False"] : List Text).contains t then some false
  else none

end AssetMinifier.Text
