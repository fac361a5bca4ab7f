import AssetMinifier.Text.Rune

/-!
# Lower case

Names are compared without regard to case.  All names that are looked up are
made of ASCII characters, so only those letters matter whose lower-case form
is an ASCII letter.
-/

namespace AssetMinifier

/-- The lower-case form of a character, if that form is an ASCII letter; any
other character is left alone. -/
def lowerChar (c : Char) : Char :=
  if c = Char.ofNat 0x130 then 'i'
  else if c = Char.ofNat 0x212A then 'k'
  else c.toLower

namespace Text

/-- A text in lower case. -/
def lower (t : Text) : Text :=
  mapRunes (fun rs => rs.map fun
    | .char c => .char (lowerChar c)
    | .stray b => .stray b) t

end Text

end AssetMinifier
