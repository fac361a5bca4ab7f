import AssetMinifier.Text.Basic

/-!
# Comments

Both kinds of comment are found by a scan over bytes, from left to right, that
knows nothing of string literals.  A line comment runs from `//` to the end of
the line, unless a colon stands directly before it, so that an address such as
`http://` is kept.  A block comment runs from `/*` to the first `*/` behind it;
an opening without an end is kept.
-/

namespace AssetMinifier.Comment

/-- The byte of a slash. -/
def slash : UInt8 := 0x2F

/-- The byte of an asterisk. -/
def star : UInt8 := 0x2A

/-- The byte of a colon. -/
def colon : UInt8 := 0x3A

/-- The byte that ends a line. -/
def newline : UInt8 := 0x0A

/-- Whether a line comment starts at the byte `b`, with `prev` before it and
`rest` behind it. -/
def startsLine (prev : Option UInt8) (b : UInt8) (rest : Text) : Bool :=
  b = slash && rest.head? = some slash && prev ≠ some colon

/-- Drop line comments, given whether the scan is inside one and which byte
precedes. -/
def stripLinesFrom : Bool → Option UInt8 → Text → Text
  | _, _, [] => []
  | true, _, b :: t =>
    if b = newline then b :: stripLinesFrom false (some b) t
    else stripLinesFrom true (some b) t
  | false, prev, b :: t =>
    if startsLine prev b t then stripLinesFrom true (some b) t
    else b :: stripLinesFrom false (some b) t

/-- Drop every line comment.  The newline that ends it is kept. -/
def stripLines (t : Text) : Text :=
  stripLinesFrom false none t

/-- The number of bytes up to and including the first `*/`. -/
def closeLength? : Text → Option Nat
  | [] => none
  | b :: t =>
    if b = star && t.head? = some slash then some 2
    else (closeLength? t).map (· + 1)

/-- The length of the complete block comment at the front of a text. -/
def blockLength? : Text → Option Nat
  | b :: c :: t =>
    if b = slash && c = star then (closeLength? t).map (· + 2) else none
  | _ => none

/-- Drop block comments, when the given number of bytes still belong to one. -/
def stripBlocksFrom : Nat → Text → Text
  | _, [] => []
  | skip + 1, _ :: t => stripBlocksFrom skip t
  | 0, b :: t =>
    match blockLength? (b :: t) with
    | some n => stripBlocksFrom (n - 1) t
    | none => b :: stripBlocksFrom 0 t

/-- Drop every complete block comment. -/
def stripBlocks (t : Text) : Text :=
  stripBlocksFrom 0 t

end AssetMinifier.Comment
