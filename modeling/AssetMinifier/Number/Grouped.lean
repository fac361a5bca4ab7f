import AssetMinifier.Text.Basic

/-!
# Grouped digits

Integers with a comma between groups of three digits.
-/

namespace AssetMinifier.Grouped

/-- Put a comma before every third digit but the first, counting from the last
digit.  The digits come in reverse. -/
def commas : Nat → Text → Text
  | _, [] => []
  | n, b :: t =>
    if n % 3 = 0 && n ≠ 0 then 0x2C :: b :: commas (n + 1) t
    else b :: commas (n + 1) t

/-- A natural number with its digits in groups of three. -/
def ofNat (n : Nat) : Text :=
  (commas 0 (Text.ofNat n).reverse).reverse

/-- An integer with its digits in groups of three. -/
def render (i : Int) : Text :=
  if i < 0 then "-" ++ ofNat i.natAbs else ofNat i.natAbs

end AssetMinifier.Grouped
