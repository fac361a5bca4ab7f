/-!
# Powers

The powers of the bases in which numbers are stored and written.
-/

namespace AssetMinifier.Power

/-- A power of two. -/
def two (n : Nat) : Nat :=
  Nat.pow 2 n

/-- A power of ten. -/
def ten (n : Nat) : Nat :=
  Nat.pow 10 n

end AssetMinifier.Power
