import AssetMinifier.Number.Fixed

/-!
# Byte sizes

A number of bytes in the largest decimal unit that does not exceed it, with one
decimal place below ten units and none from there on.
-/

namespace AssetMinifier.ByteSize

/-- The units, each a thousand times the one before. -/
def units : List Text :=
  ["B", "kB", "MB", "GB", "TB", "PB", "EB"]

/-- A number of bytes for reading.  The unit is found by logarithms, so a size
just below a unit may already count as one. -/
def render (n : UInt64) : Text :=
  if n < 10 then Text.ofNat n.toNat ++ " B"
  else
    let unit := (Float.log n.toFloat / Float.log 1000).floor.toUInt64.toNat
    let scaled := (n.toFloat / Float.ofNat (Power.ten (3 * unit)) * 10 + 0.5).floor / 10
    Fixed.render (if scaled < 10 then 1 else 0) scaled ++ " " ++ units.getD unit []

end AssetMinifier.ByteSize
