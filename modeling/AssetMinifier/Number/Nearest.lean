import AssetMinifier.Number.Binary

/-!
# Nearest doubles

The double next to a fraction of natural numbers.  A half goes to the even
neighbour.
-/

namespace AssetMinifier.Nearest

/-- The fraction `n / d` in units of `2 ^ exponent`, rounded. -/
def scaled (n d : Nat) (exponent : Int) : Nat :=
  Binary.roundDiv (n * Power.two (-exponent).toNat) (d * Power.two exponent.toNat)

/-- The exponent of the unit in the last place of the double below or at a
positive fraction. -/
def unitExponent (n d : Nat) : Int :=
  let guess : Int := (n.log2 : Int) - d.log2 - 52
  let tooLarge :=
    n * Power.two (-guess).toNat < Power.two 52 * (d * Power.two guess.toNat)
  max (-1074) (if tooLarge then guess - 1 else guess)

/-- The double next to a fraction, unless it is too large for one. -/
def ofFraction? (n d : Nat) : Option Float :=
  if n = 0 then some 0
  else
    let exponent := unitExponent n d
    let bits := (exponent + 1074).toNat * Power.two 52 + scaled n d exponent
    if bits < 2047 * Power.two 52 then some (Float.ofBits (UInt64.ofNat bits)) else none

/-- The double next to `digits * 10 ^ exponent`, unless it is too large for
one. -/
def ofDecimal? (digits : Nat) (exponent : Int) : Option Float :=
  let size := ((Nat.toDigits 10 digits).length : Int) + exponent
  if digits = 0 || size < -400 then some 0
  else if 400 < size then none
  else ofFraction? (digits * Power.ten exponent.toNat) (Power.ten (-exponent).toNat)

end AssetMinifier.Nearest
