import AssetMinifier.Text.Rune

/-!
# The encoding of a document

A document is written in UTF-8 or, if a byte order mark in front says so, in
UTF-16.  Control characters other than tabs and line ends are not allowed.

The bytes are decoded in blocks, and a block is decoded when one of its
characters is wanted.  So malformed bytes do no harm to a reader that has
finished before it comes to their block.
-/

namespace AssetMinifier.Yaml

/-- Whether a character may stand in a document. -/
def isAllowed (c : Char) : Bool :=
  let n := c.toNat
  n = 0x09 || n = 0x0A || n = 0x0D || (0x20 ≤ n && n ≤ 0x7E) || n = 0x85 ||
    (0xA0 ≤ n && n ≤ 0xFFFD) || 0x10000 ≤ n

/-- The byte order mark, which may start a document. -/
def byteOrderMark : Char :=
  Char.ofNat 0xFEFF

/-- How the characters of a document are written. -/
inductive Encoding where
  | utf8
  | utf16 (bigEndian : Bool)
  deriving DecidableEq, Repr

/-- What the bytes at hand start with. -/
inductive Lead where
  /-- A character that takes a number of bytes. -/
  | char (c : Char) (size : Nat)
  /-- A part of a character whose other bytes are not at hand. -/
  | unfinished
  | malformed
  deriving DecidableEq, Repr

/-- The bytes of a document as characters. -/
structure Source where
  /-- The characters of the well-formed blocks in front. -/
  blocks : List (List Char)
  /-- Whether a malformed block follows them. -/
  faulty : Bool
  deriving DecidableEq, Repr

namespace Encoding

/-- The number of bytes of a character by the first of them in UTF-8, and zero
if no character starts with it. -/
def leadSize (b : UInt8) : Nat :=
  if b < 0x80 then 1
  else if b &&& 0xE0 = 0xC0 then 2
  else if b &&& 0xF0 = 0xE0 then 3
  else if b &&& 0xF8 = 0xF0 then 4
  else 0

/-- A character of a number of bytes, if it is allowed. -/
def allowed (c : Char) (size : Nat) : Lead :=
  if isAllowed c then .char c size else .malformed

/-- What a sequence of bytes in UTF-8 starts with. -/
def leadUtf8 (t : Text) : Lead :=
  let size := leadSize (t.headD 0)
  if size = 0 then .malformed
  else if (t.take size).length < size then .unfinished
  else
    match t.firstChar? with
    | some c => if c.utf8Size = size then allowed c size else .malformed
    | none => .malformed

/-- What a sequence of bytes in UTF-16 starts with. -/
def leadUtf16 (bigEndian : Bool) (t : Text) : Lead :=
  let unit := fun (a b : UInt8) =>
    if bigEndian then 256 * a.toNat + b.toNat else 256 * b.toNat + a.toNat
  match t with
  | a :: b :: t =>
    let u := unit a b
    if u.isValidChar then allowed (Char.ofNat u) 2
    else if 0xDC00 ≤ u then .malformed
    else
      match t with
      | c :: d :: _ =>
        let v := unit c d
        if 0xDC00 ≤ v && v < 0xE000 then
          allowed (Char.ofNat (0x10000 + 1024 * (u - 0xD800) + (v - 0xDC00))) 4
        else .malformed
      | _ => .unfinished
  | _ => .unfinished

/-- What a sequence of bytes starts with. -/
def lead : Encoding → Text → Lead
  | utf8 => leadUtf8
  | utf16 bigEndian => leadUtf16 bigEndian

/-- The characters of a block behind those read already, and the bytes of an
unfinished character at its end. -/
def decodeBlock? (e : Encoding) : Nat → List Char → Text → Option (List Char × Text)
  | 0, read, t => some (read.reverse, t)
  | fuel + 1, read, t =>
    if t.isEmpty then some (read.reverse, [])
    else
      match e.lead t with
      | .char c size => decodeBlock? e fuel (c :: read) (t.drop size)
      | .unfinished => some (read.reverse, t)
      | .malformed => none

/-- The number of bytes of a block. -/
def blockSize : Nat :=
  512

/-- The characters of a document of which the first block takes a number of
bytes behind the unfinished character before it. -/
def decode (e : Encoding) : Nat → Nat → Text → Text → Source
  | 0, _, _, _ => ⟨[], true⟩
  | fuel + 1, size, unfinished, t =>
    if t.isEmpty then ⟨[], !unfinished.isEmpty⟩
    else
      match e.decodeBlock? blockSize [] (unfinished ++ t.take size) with
      | none => ⟨[], true⟩
      | some (block, unfinished) =>
        let later := decode e fuel (blockSize - unfinished.length) unfinished (t.drop size)
        ⟨block :: later.blocks, later.faulty⟩

end Encoding

/-- The characters of a document in the encoding that its first bytes show.  A
document without any bytes is an empty line. -/
def Source.ofText : Text → Source
  | [] => ⟨[['\n']], false⟩
  | 0xFF :: 0xFE :: t => (Encoding.utf16 false).decode (t.length + 1) (Encoding.blockSize - 2) [] t
  | 0xFE :: 0xFF :: t => (Encoding.utf16 true).decode (t.length + 1) (Encoding.blockSize - 2) [] t
  | 0xEF :: 0xBB :: 0xBF :: t =>
    Encoding.utf8.decode (t.length + 1) (Encoding.blockSize - 3) [] t
  | t => Encoding.utf8.decode (t.length + 1) Encoding.blockSize [] t

end AssetMinifier.Yaml
