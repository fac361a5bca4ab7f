import AssetMinifier.Path.Basic
import AssetMinifier.Text.Rune

/-!
# Globs

A glob is matched against a whole path.  `*` stands for any bytes other than a
slash, `?` for one character other than a slash, a bracket for one character
out of ranges, and a backslash takes the meaning away from what follows it.

The stars divide a glob into chunks.  Each chunk is placed as far to the left
as it fits and is not moved again; the last one has to reach the end.
-/

namespace AssetMinifier

namespace Glob

/-- One piece of a chunk. -/
inductive Piece where
  /-- The byte itself. -/
  | byte (b : UInt8)
  /-- Any character other than a slash. -/
  | any
  /-- A character whose code point lies in one of the ranges or, if negated,
  in none of them. -/
  | oneOf (negated : Bool) (ranges : List (Nat × Nat))
  deriving DecidableEq, Repr

/-- A part of a glob, with a star before it or not. -/
structure Chunk where
  starred : Bool
  pieces : List Piece
  deriving DecidableEq, Repr

/-- The byte of a star. -/
def star : UInt8 := 0x2A

/-- The byte that takes the meaning away from the next one. -/
def escape : UInt8 := 0x5C

/-- The byte that opens a bracket. -/
def opening : UInt8 := 0x5B

/-- The byte that closes a bracket. -/
def closing : UInt8 := 0x5D

/-- The byte between the ends of a range. -/
def dash : UInt8 := 0x2D

/-- The length of a chunk: it ends before the next star outside brackets. -/
def chunkLength : Bool → Text → Nat
  | _, [] => 0
  | inBracket, b :: t =>
    if b = escape then
      match t with
      | [] => 1
      | _ :: t => chunkLength inBracket t + 2
    else if b = opening then chunkLength true t + 1
    else if b = closing then chunkLength false t + 1
    else if b = star && !inBracket then 0
    else chunkLength inBracket t + 1

/-- One end of a range inside a bracket, and what follows it.  Something has to
follow, since the bracket is still open. -/
def rangeEnd? (t : Text) : Option (Nat × Text) := do
  let b ← t.head?
  if b = dash || b = closing then none
  else
    let t := if b = escape then t.tail else t
    let c ← Text.firstChar? t
    let rest := t.drop c.utf8Size
    if rest.isEmpty then none else some (c.toNat, rest)

/-- The ranges of a bracket up to its end, and what follows it.  Every range
takes at least one byte, so the length of the text bounds their number. -/
def ranges? : Nat → Bool → Text → Option (List (Nat × Nat) × Text)
  | 0, _, _ => none
  | fuel + 1, first, t =>
    if t.head? = some closing && !first then some ([], t.tail)
    else do
      let (lo, t) ← rangeEnd? t
      let (hi, t) ← if t.head? = some dash then rangeEnd? t.tail else some (lo, t)
      let (ranges, t) ← ranges? fuel false t
      some ((lo, hi) :: ranges, t)

/-- The bracket behind its opening byte, and what follows it. -/
def bracket? (t : Text) : Option (Piece × Text) := do
  let negated := t.head? = some 0x5E
  let t := if negated then t.tail else t
  let (ranges, t) ← ranges? (t.length + 1) true t
  some (.oneOf negated ranges, t)

/-- The pieces of a chunk, if it is well-formed.  Every piece takes at least
one byte, so the length of the chunk bounds their number. -/
def pieces? : Nat → Text → Option (List Piece)
  | _, [] => some []
  | 0, _ => none
  | fuel + 1, b :: t =>
    if b = opening then do
      let (piece, t) ← bracket? t
      (pieces? fuel t).map (piece :: ·)
    else if b = 0x3F then (pieces? fuel t).map (.any :: ·)
    else if b = escape then
      match t with
      | [] => none
      | b :: t => (pieces? fuel t).map (.byte b :: ·)
    else (pieces? fuel t).map (.byte b :: ·)

/-- The chunks of a glob, if it is well-formed.  Every chunk takes at least one
byte, so the length of the glob bounds their number. -/
def chunks? : Nat → Text → Option (List Chunk)
  | _, [] => some []
  | 0, _ => none
  | fuel + 1, b :: t => do
    let rest := (b :: t).dropWhile (· = star)
    let n := chunkLength false rest
    let pieces ← pieces? n (rest.take n)
    let chunks ← chunks? fuel (rest.drop n)
    some (⟨b = star, pieces⟩ :: chunks)

/-- Match the pieces of a chunk at the front of a name; the rest of the name
follows. -/
def matchPieces? : List Piece → Text → Option Text
  | [], name => some name
  | _ :: _, [] => none
  | .byte b :: pieces, c :: name => if b = c then matchPieces? pieces name else none
  | .any :: pieces, c :: name =>
    if c = Path.separator then none
    else matchPieces? pieces (name.drop (((Text.firstChar? (c :: name)).elim 1 Char.utf8Size) - 1))
  | .oneOf negated ranges :: pieces, c :: name =>
    let char? := Text.firstChar? (c :: name)
    let point := char?.elim 0xFFFD Char.toNat
    if (ranges.any fun (lo, hi) => lo ≤ point && point ≤ hi) = negated then none
    else matchPieces? pieces (name.drop ((char?.elim 1 Char.utf8Size) - 1))

/-- Match a chunk at the front of a name.  The last chunk has to reach the
end. -/
def fit? (last : Bool) (pieces : List Piece) (name : Text) : Option Text :=
  (matchPieces? pieces name).filter fun rest => !last || rest.isEmpty

/-- The leftmost place for a chunk behind a star, which takes no slash. -/
def seek? (last : Bool) (pieces : List Piece) : Text → Option Text
  | [] => fit? last pieces []
  | b :: name =>
    match fit? last pieces (b :: name) with
    | some rest => some rest
    | none => if b = Path.separator then none else seek? last pieces name

/-- Match chunks one after another. -/
def matchChunks : List Chunk → Text → Bool
  | [], name => name.isEmpty
  | chunk :: chunks, name =>
    if chunk.starred && chunk.pieces.isEmpty then !name.contains Path.separator
    else
      let place? :=
        if chunk.starred then seek? chunks.isEmpty chunk.pieces name
        else fit? chunks.isEmpty chunk.pieces name
      match place? with
      | some rest => matchChunks chunks rest
      | none => false

/-- Whether a glob matches a name.  A malformed glob matches nothing. -/
def matchesName (pattern name : Text) : Bool :=
  match chunks? (pattern.length + 1) pattern with
  | some chunks => matchChunks chunks name
  | none => false

end Glob

end AssetMinifier
