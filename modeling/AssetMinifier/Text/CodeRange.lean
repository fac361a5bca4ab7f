/-!
# Ranges of code points

A set of characters is given as a list of disjoint ranges of code points in
increasing order.
-/

namespace AssetMinifier

/-- The code points from `first` to `last`, both included. -/
structure CodeRange where
  first : Nat
  last : Nat
  deriving DecidableEq, Repr

namespace CodeRange

/-- Membership in a list of increasing ranges; the search stops at the first
range that starts beyond the code point. -/
def contains : List CodeRange → Nat → Bool
  | [], _ => false
  | r :: rs, n =>
    if n < r.first then false
    else if n ≤ r.last then true
    else contains rs n

/-- Read a table of ranges written as pairs of ends. -/
def ofPairs (pairs : List (Nat × Nat)) : List CodeRange :=
  pairs.map fun (first, last) => ⟨first, last⟩

end CodeRange

end AssetMinifier
