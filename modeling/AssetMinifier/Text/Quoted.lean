import AssetMinifier.Text.Printable
import AssetMinifier.Text.Rune

/-!
# Quoted text

A text in double quotes, with a backslash before the quote and the backslash,
short escapes for the usual control characters, and hexadecimal escapes for
all else that cannot be shown.
-/

namespace AssetMinifier.Text

/-- The hexadecimal digits of a number, padded with zeros to a width. -/
def hex (width n : Nat) : Text :=
  let digits := Nat.toDigits 16 n
  ofString (String.ofList (List.replicate (width - digits.length) '0' ++ digits))

/-- A character as it stands between double quotes. -/
def quoteChar (c : Char) : Text :=
  if c = '"' then "\\\""
  else if c = '\\' then "\\\\"
  else if isPrintable c then String.utf8EncodeChar c
  else
    match c.toNat with
    | 0x07 => "\\a"
    | 0x08 => "\\b"
    | 0x0C => "\\f"
    | 0x0A => "\\n"
    | 0x0D => "\\r"
    | 0x09 => "\\t"
    | 0x0B => "\\v"
    | n =>
      if n < 0x20 || n = 0x7F then "\\x" ++ hex 2 n
      else if n < 0x10000 then "\\u" ++ hex 4 n
      else "\\U" ++ hex 8 n

/-- A rune as it stands between double quotes. -/
def quoteRune : Rune → Text
  | .char c => quoteChar c
  | .stray b => "\\x" ++ hex 2 b.toNat

/-- A text in double quotes. -/
def quote (t : Text) : Text :=
  "\"" ++ t.runes.flatMap quoteRune ++ "\""

end AssetMinifier.Text
