import AssetMinifier.Yaml.Encoding

/-!
# Cursors

The unread characters of a document together with the place in it.  Reading
asks for the number of characters that it wants to look at; only then are
further blocks decoded, and reading fails if one of them is malformed.
-/

namespace AssetMinifier.Yaml

/-- The character that stands for the end of a document. -/
def endMark : Char :=
  Char.ofNat 0

/-- Whether a character ends a line. -/
def isBreak (c : Char) : Bool :=
  c = '\n' || c = '\r' || c.toNat = 0x85 || c.toNat = 0x2028 || c.toNat = 0x2029

/-- Whether a character is a blank or a tab. -/
def isBlank (c : Char) : Bool :=
  c = ' ' || c = '\t'

/-- Whether a character ends a line or the document. -/
def isStop (c : Char) : Bool :=
  isBreak c || c = endMark

/-- Whether a character separates words. -/
def isGap (c : Char) : Bool :=
  isBlank c || isStop c

/-- The unread characters and the place of the first of them. -/
structure Cursor where
  /-- The decoded characters, followed by end marks behind the last block. -/
  buffer : List Char := []
  /-- The blocks that are not decoded yet. -/
  blocks : List (List Char)
  /-- Whether a malformed block follows them. -/
  faulty : Bool
  /-- Whether the buffer started with a byte order mark when it was last
  filled. -/
  marked : Bool := false
  index : Nat := 0
  line : Nat := 0
  column : Nat := 0
  /-- The number of line ends since the last character that is no blank. -/
  breaks : Nat := 0
  /-- More than the number of characters of the document, which bounds every
  loop over them. -/
  size : Nat

/-- A cursor at the start of a document. -/
def Cursor.start (s : Source) : Cursor :=
  { blocks := s.blocks
    faulty := s.faulty
    size := s.blocks.foldl (fun n block => n + block.length) 8 }

/-- Reading characters, which may fail. -/
abbrev Scan := StateT Cursor Option

namespace Scan

/-- Whether a buffer holds at least a number of characters. -/
def holds (n : Nat) (buffer : List Char) : Bool :=
  n = 0 || !(buffer.drop (n - 1)).isEmpty

/-- Fill a buffer with blocks until it holds a number of characters. -/
def fill (n : Nat) (buffer : List Char) : List (List Char) → List Char × List (List Char)
  | [] => (buffer, [])
  | block :: blocks =>
    if holds n buffer then (buffer, block :: blocks) else fill n (buffer ++ block) blocks

/-- Make sure that a number of characters can be looked at. -/
def need (n : Nat) : Scan Unit := do
  let c ← get
  if holds n c.buffer then return ()
  else
    let (buffer, blocks) := fill n c.buffer c.blocks
    let full := holds n buffer
    if !full && c.faulty then failure
    else
      let buffer := if full then buffer else buffer ++ [endMark]
      set { c with buffer, blocks, marked := buffer.head? = some byteOrderMark }

/-- The character after a number of others. -/
def peekAt (n : Nat) : Scan Char := do
  return ((← get).buffer[n]?).getD endMark

/-- The next character. -/
def peek : Scan Char :=
  peekAt 0

/-- Pass over one character of a line. -/
def skip : Scan Unit := do
  let blank := isBlank (← peek)
  modify fun c =>
    { c with
      buffer := c.buffer.tail
      index := c.index + 1
      column := c.column + 1
      breaks := if blank then c.breaks else 0 }

/-- Pass over a number of characters of a line. -/
def skipMany : Nat → Scan Unit
  | 0 => return ()
  | n + 1 => do
    skip
    skipMany n

/-- Pass over the end of a line, if there is one. -/
def skipLine : Scan Unit := do
  let ch ← peek
  if isBreak ch then
    let n := if ch = '\r' && (← peekAt 1) = '\n' then 2 else 1
    modify fun c =>
      { c with
        buffer := c.buffer.drop n
        index := c.index + n
        line := c.line + 1
        column := 0
        breaks := c.breaks + 1 }

/-- Pass over the end of a line, and return it as it stands in a value. -/
def readLine : Scan (List Char) := do
  let ch ← peek
  skipLine
  if isBreak ch then
    return if ch.toNat = 0x2028 || ch.toNat = 0x2029 then [ch] else ['\n']
  else return []

/-- Pass over the characters of a line that satisfy a condition, and return
them behind those read already, the last first. -/
def readWhile (p : Char → Bool) : Nat → List Char → Scan (List Char)
  | 0, read => return read
  | fuel + 1, read => do
    let ch ← peek
    if p ch then
      skip
      need 1
      readWhile p fuel (ch :: read)
    else return read

/-- The longest sequence of characters at the cursor that satisfy a
condition. -/
def span (p : Char → Bool) : Scan (List Char) := do
  need 1
  return (← readWhile p (← get).size []).reverse

/-- Pass over the characters at the cursor that satisfy a condition. -/
def pass (p : Char → Bool) : Scan Unit := do
  need 1
  let _ ← readWhile p (← get).size []

/-- Whether three equal characters at the start of a line stand here as a
mark of their own. -/
def atMark (mark : Char) : Scan Bool := do
  let c ← get
  return c.column = 0 && c.buffer.take 3 = [mark, mark, mark] && isGap (← peekAt 3)

/-- Whether the start or the end of a document is marked here. -/
def atDocumentMark : Scan Bool := do
  return (← atMark '-') || (← atMark '.')

end Scan

end AssetMinifier.Yaml
