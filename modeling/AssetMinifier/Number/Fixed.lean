import AssetMinifier.Number.Binary

/-!
# Fixed-point text

A double with a fixed number of decimal places, rounded from its exact value;
a half goes to the even neighbour.
-/

namespace AssetMinifier.Fixed

/-- The value `mantissa * 2 ^ exponent` in units of `10 ^ (-places)`. -/
def units (places mantissa : Nat) (exponent : Int) : Nat :=
  match exponent with
  | .ofNat e => mantissa * Power.ten places * Power.two e
  | .negSucc e => Binary.roundDiv (mantissa * Power.ten places) (Power.two (e + 1))

/-- Decimal digits with zeros in front up to a width. -/
def padded (width n : Nat) : Text :=
  let digits := Text.ofNat n
  List.replicate (width - digits.length) 0x30 ++ digits

/-- A count of units of `10 ^ (-places)` as a decimal number. -/
def decimal (places n : Nat) : Text :=
  if places = 0 then Text.ofNat n
  else Text.ofNat (n / Power.ten places) ++ "." ++ padded places (n % Power.ten places)

/-- A double with a fixed number of decimal places. -/
def render (places : Nat) (x : Float) : Text :=
  match Binary.ofFloat x with
  | .notANumber => Binary.notANumberText
  | .infinite negative => Binary.infinityText negative
  | .finite negative mantissa exponent =>
    Binary.sign negative ++ decimal places (units places mantissa exponent)

end AssetMinifier.Fixed
