import AssetMinifier.Text.Basic

/-!
# Base 64

Bytes written as groups of four letters, each of which stands for six bits.
-/

namespace AssetMinifier.Base64

/-- The six bits of a letter. -/
def bits? (b : UInt8) : Option Nat :=
  let n := b.toNat
  if 0x41 ≤ n && n ≤ 0x5A then some (n - 0x41)
  else if 0x61 ≤ n && n ≤ 0x7A then some (n - 0x61 + 26)
  else if 0x30 ≤ n && n ≤ 0x39 then some (n - 0x30 + 52)
  else if n = 0x2B then some 62
  else if n = 0x2F then some 63
  else none

/-- The letter that fills up the last group. -/
def padding : UInt8 := 0x3D

/-- The bytes of groups of letters.  Only the last group may be filled up. -/
def decodeGroups? : Text → Option Text
  | [] => some []
  | [a, b, c, d] => do
    let x := 64 * (← bits? a) + (← bits? b)
    if c = padding then
      if d = padding then some [UInt8.ofNat (x / 16)] else none
    else
      let y := 64 * x + (← bits? c)
      if d = padding then some [UInt8.ofNat (y / 1024), UInt8.ofNat (y / 4)]
      else
        let z := 64 * y + (← bits? d)
        some [UInt8.ofNat (z / 65536), UInt8.ofNat (z / 256), UInt8.ofNat z]
  | a :: b :: c :: d :: rest => do
    let z := 64 * (64 * (64 * (← bits? a) + (← bits? b)) + (← bits? c)) + (← bits? d)
    let later ← decodeGroups? rest
    some (UInt8.ofNat (z / 65536) :: UInt8.ofNat (z / 256) :: UInt8.ofNat z :: later)
  | _ => none

/-- The bytes that a text stands for.  Line ends do not count. -/
def decode? (t : Text) : Option Text :=
  decodeGroups? (t.filter fun b => b ≠ 0x0A && b ≠ 0x0D)

end AssetMinifier.Base64
