import AssetMinifier.Number.Fixed

/-!
# Shortest decimal text

A double as the decimal number with the fewest digits that reads back as the
same double, always written positionally.

The reals that read back as a double form an interval around it, half way to
its neighbours; the ends belong to it if the mantissa is even.  For each number
of digits only the two decimals next to the double need to be tried.
-/

namespace AssetMinifier.Shortest

/-- Four times the value, and the ends of its interval, over a common
denominator.  The lower gap is half as wide at a power of two. -/
structure Interval where
  low : Nat
  value : Nat
  high : Nat
  denominator : Nat
  closed : Bool
  deriving DecidableEq, Repr

/-- The interval of the reals that read back as `mantissa * 2 ^ exponent`. -/
def interval (mantissa : Nat) (exponent : Int) : Interval :=
  let narrow := mantissa = Power.two 52 && exponent ≠ -1074
  let scale := Power.two exponent.toNat
  { low := (4 * mantissa - if narrow then 1 else 2) * scale
    value := 4 * mantissa * scale
    high := (4 * mantissa + 2) * scale
    denominator := 4 * Power.two (-exponent).toNat
    closed := mantissa % 2 = 0 }

/-- Whether the interval holds the fraction `n / d`. -/
def Interval.holds (i : Interval) (n d : Nat) : Bool :=
  let lower := i.low * d
  let upper := i.high * d
  let x := n * i.denominator
  if i.closed then lower ≤ x && x ≤ upper else lower < x && x < upper

/-- A decimal number `digits * 10 ^ exponent`. -/
structure Decimal where
  digits : Nat
  exponent : Int
  deriving DecidableEq, Repr

/-- The nearer of the two decimals with step `10 ^ exponent` around the value,
if the interval holds one of them. -/
def candidate? (i : Interval) (exponent : Int) : Option Decimal :=
  let up := Power.ten exponent.toNat
  let down := Power.ten (-exponent).toNat
  let n := i.value * down
  let d := i.denominator * up
  let below := n / d
  let holds := fun k => i.holds (k * up) down
  let nearest := Binary.roundDiv n d
  if holds nearest then some ⟨nearest, exponent⟩
  else if holds below then some ⟨below, exponent⟩
  else if holds (below + 1) then some ⟨below + 1, exponent⟩
  else none

/-- The candidate with the largest step, starting from a given one and going
down a given number of steps. -/
def search (i : Interval) : Nat → Int → Option Decimal
  | 0, _ => none
  | steps + 1, exponent =>
    match candidate? i exponent with
    | some decimal => if decimal.digits = 0 then search i steps (exponent - 1) else some decimal
    | none => search i steps (exponent - 1)

/-- A decimal number written positionally. -/
def Decimal.render (d : Decimal) : Text :=
  match d.exponent with
  | .ofNat e => Text.ofNat (d.digits * Power.ten e)
  | .negSucc e => Fixed.decimal (e + 1) d.digits

/-- A double as its shortest decimal number. -/
def render (x : Float) : Text :=
  match Binary.ofFloat x with
  | .notANumber => Binary.notANumberText
  | .infinite negative => Binary.infinityText negative
  | .finite negative mantissa exponent =>
    if mantissa = 0 then Binary.sign negative ++ "0"
    else
      match search (interval mantissa exponent) 700 309 with
      | some decimal => Binary.sign negative ++ decimal.render
      | none => Binary.sign negative ++ "0"

end AssetMinifier.Shortest
