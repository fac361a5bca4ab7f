import AssetMinifier.Number.Nearest
import AssetMinifier.Yaml.Scalar

/-!
# Numerals

Which words of a document are numbers.  Whole numbers may be written in the
bases two, eight, ten and sixteen; a zero in front makes a numeral octal.
-/

namespace AssetMinifier.Yaml

/-- The number with the given digits in a base. -/
def natural? (base : Nat) (digits : List Char) : Option Nat :=
  digits.foldlM (fun n c => do
    let d ← hexValue? c
    if d < base then some (base * n + d) else none) 0

/-- A number without a sign in the base that its first characters show. -/
def unsigned? : List Char → Option Nat
  | [] => none
  | '0' :: c :: d :: digits =>
    if c = 'b' || c = 'B' then natural? 2 (d :: digits)
    else if c = 'o' || c = 'O' then natural? 8 (d :: digits)
    else if c = 'x' || c = 'X' then natural? 16 (d :: digits)
    else natural? 8 (c :: d :: digits)
  | '0' :: digits => natural? 8 digits
  | digits => natural? 10 digits

/-- A number that fits into 64 bits with a sign. -/
def signed? (negative : Bool) (n : Nat) : Option Int :=
  if negative then
    if n ≤ Power.two 63 then some (-(n : Int)) else none
  else if n < Power.two 63 then some n else none

/-- A number with an optional sign.  Without a sign it may take all of the 64
bits. -/
def integer? : List Char → Option Int
  | '-' :: cs => do signed? true (← unsigned? cs)
  | '+' :: cs => do signed? false (← unsigned? cs)
  | cs => do
    let n ← unsigned? cs
    if n < Power.two 64 then some n else none

/-- A binary or octal number with a sign behind the mark of its base. -/
def markedInteger? : List Char → Option Int
  | '0' :: mark :: sign :: digits => do
    let base ← if mark = 'b' then some 2 else if mark = 'o' then some 8 else none
    if digits.isEmpty || (sign ≠ '-' && sign ≠ '+') then none
    else signed? (sign = '-') (← natural? base digits)
  | _ => none

/-- A sign in front, if there is one, and the rest. -/
def splitSign : List Char → Bool × List Char
  | '-' :: cs => (true, cs)
  | '+' :: cs => (false, cs)
  | cs => (false, cs)

/-- The exponent at the end of a decimal number. -/
def exponent? : List Char → Option Int
  | [] => some 0
  | c :: cs =>
    if c = 'e' || c = 'E' then do
      let (negative, digits) := splitSign cs
      if digits.isEmpty then none
      else
        let n ← natural? 10 digits
        some (if negative then -(n : Int) else n)
    else none

/-- A decimal number with an optional sign, point and exponent. -/
def decimal? (cs : List Char) : Option Float := do
  let (negative, cs) := splitSign cs
  let whole := cs.takeWhile Char.isDigit
  let rest := cs.drop whole.length
  let pointed := rest.head? = some '.'
  let part := if pointed then rest.tail.takeWhile Char.isDigit else []
  let rest := if pointed then rest.drop (part.length + 1) else rest
  if whole.isEmpty && part.isEmpty then none
  else
    let digits ← natural? 10 (whole ++ part)
    let exponent ← exponent? rest
    let x ← Nearest.ofDecimal? digits (exponent - part.length)
    some (if negative then -x else x)

/-- Whether every underscore of a word stands between two digits. -/
def underscoresSeparate : Option Char → List Char → Bool
  | _, [] => true
  | before, '_' :: cs =>
    before.any Char.isDigit && cs.head?.any Char.isDigit && underscoresSeparate (some '_') cs
  | _, c :: cs => underscoresSeparate (some c) cs

/-- A decimal number that starts with a point. -/
def pointed? (cs : List Char) : Option Float :=
  if underscoresSeparate none cs then decimal? (cs.filter (· ≠ '_')) else none

end AssetMinifier.Yaml
