import AssetMinifier.Number.Power
import AssetMinifier.Text.Basic

/-!
# Doubles as exact numbers

A finite double is a sign and a natural number times a power of two.  All
printing of doubles starts from this exact value.
-/

namespace AssetMinifier

/-- What a double stands for. -/
inductive Binary where
  | notANumber
  | infinite (negative : Bool)
  /-- The number `mantissa * 2 ^ exponent` with a sign. -/
  | finite (negative : Bool) (mantissa : Nat) (exponent : Int)
  deriving DecidableEq, Repr

namespace Binary

/-- The exact value of a double. -/
def ofFloat (x : Float) : Binary :=
  let bits := x.toBits.toNat
  let negative := bits / Power.two 63 = 1
  let exponent : Nat := bits / Power.two 52 % Power.two 11
  let fraction := bits % Power.two 52
  if exponent = 2047 then
    if fraction = 0 then infinite negative else notANumber
  else if exponent = 0 then finite negative fraction (-1074)
  else finite negative (Power.two 52 + fraction) ((exponent : Int) - 1075)

/-- The quotient of two natural numbers, rounded to the nearest natural
number; a half goes to the even neighbour. -/
def roundDiv (n d : Nat) : Nat :=
  let q := n / d
  let r := n % d
  if 2 * r < d then q
  else if d < 2 * r then q + 1
  else q + q % 2

/-- The text of a value that is not finite; an infinity always shows its
sign. -/
def infinityText (negative : Bool) : Text :=
  if negative then "-Inf" else "+Inf"

/-- The text of a value that is no number. -/
def notANumberText : Text :=
  "NaN"

/-- The minus sign of a negative number. -/
def sign (negative : Bool) : Text :=
  if negative then "-" else []

end Binary

end AssetMinifier
