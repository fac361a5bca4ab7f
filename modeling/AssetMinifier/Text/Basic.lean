/-!
# Texts

A text is a string of bytes.  File contents, paths, names and everything
printed are texts, so nothing is assumed about their encoding; the view of a
text as characters is in `AssetMinifier.Text.Rune`.
-/

namespace AssetMinifier

/-- A text is a finite string of bytes. -/
abbrev Text := List UInt8

namespace Text

/-- The bytes of a string in its UTF-8 form. -/
def ofString (s : String) : Text :=
  s.toByteArray.data.toList

instance : Coe String Text :=
  ⟨ofString⟩

/-- Split at every occurrence of a byte.  There is always at least one part. -/
def splitOn (sep : UInt8) : Text → List Text
  | [] => [[]]
  | b :: t =>
    if b = sep then
      [] :: splitOn sep t
    else
      match splitOn sep t with
      | [] => [[b]]
      | part :: parts => (b :: part) :: parts

/-- Join parts with a separator between each two of them. -/
def join (sep : Text) : List Text → Text
  | [] => []
  | [part] => part
  | part :: next :: parts => part ++ sep ++ join sep (next :: parts)

/-- Remove `lead` from the front of a text, if the text starts with it. -/
def dropLead? (lead : Text) (t : Text) : Option Text :=
  if lead.isPrefixOf t then some (t.drop lead.length) else none

/-- Remove `lead` from the front of a text that starts with it, and leave any
other text alone. -/
def dropLead (lead : Text) (t : Text) : Text :=
  (dropLead? lead t).getD t

/-- Remove `tail` from the end of a text that ends with it, and leave any
other text alone. -/
def dropTail (tail : Text) (t : Text) : Text :=
  if tail.isSuffixOf t then t.take (t.length - tail.length) else t

/-- The parts before and after the first occurrence of `sep`, if it occurs. -/
def cut? (sep : Text) : Text → Option (Text × Text)
  | [] => if sep.isEmpty then some ([], []) else none
  | b :: t =>
    match dropLead? sep (b :: t) with
    | some rest => some ([], rest)
    | none => (cut? sep t).map fun (before, rest) => (b :: before, rest)

/-- Replace every occurrence of `old`, from left to right.  The counter is the
number of bytes of the last occurrence still to be passed over. -/
def replaceFrom (old new : Text) : Nat → Text → Text
  | _, [] => []
  | skip + 1, _ :: t => replaceFrom old new skip t
  | 0, b :: t =>
    if old.isPrefixOf (b :: t) then
      new ++ replaceFrom old new (old.length - 1) t
    else
      b :: replaceFrom old new 0 t

/-- Replace every occurrence of a nonempty text, from left to right. -/
def replace (old new : Text) (t : Text) : Text :=
  replaceFrom old new 0 t

/-- Decimal digits of a natural number. -/
def ofNat (n : Nat) : Text :=
  ofString (String.ofList (Nat.toDigits 10 n))

/-- Decimal digits of an integer, after a minus sign if it is negative. -/
def ofInt : Int → Text
  | .ofNat n => ofNat n
  | .negSucc n => "-" ++ ofNat (n + 1)

/-- `n` blanks. -/
def blanks (n : Nat) : Text :=
  List.replicate n 0x20

end Text

end AssetMinifier
