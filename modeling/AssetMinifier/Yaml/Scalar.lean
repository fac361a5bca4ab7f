import AssetMinifier.Yaml.Cursor

/-!
# Scalars

How the text of plain, quoted and block scalars is read.  The loops are
bounded by the size of the document.
-/

namespace AssetMinifier.Yaml

/-- The white space between two words of a scalar. -/
structure Gap where
  /-- Blanks and tabs, the last first, as long as no line ended. -/
  blanks : List Char := []
  /-- Whether a line ended. -/
  folded : Bool := false
  /-- The first line end. -/
  first : List Char := []
  /-- The other line ends, the last first. -/
  more : List Char := []
  deriving DecidableEq, Repr

/-- What a gap stands for: a single line end is a blank, and of several the
first is dropped. -/
def Gap.text (g : Gap) : List Char :=
  if !g.folded then g.blanks.reverse
  else if g.first = ['\n'] then
    if g.more.isEmpty then [' '] else g.more.reverse
  else g.first ++ g.more.reverse

/-- A plain scalar and the place behind it. -/
structure Plain where
  text : List Char
  /-- Whether a line ended behind the last word. -/
  newLine : Bool
  deriving DecidableEq, Repr

/-- What happens to the line ends at the end of a block scalar. -/
inductive Chomping where
  | strip
  | clip
  | keep
  deriving DecidableEq, Repr

/-- The header of a block scalar: how it is chomped, and its indentation if it
is given. -/
structure BlockHeader where
  chomping : Chomping := .clip
  increment : Nat := 0
  deriving DecidableEq, Repr

/-- A block scalar that is being read. -/
structure Block where
  /-- The text of the lines, the last character first. -/
  text : List Char := []
  /-- The end of the last line. -/
  lastBreak : List Char := []
  /-- Whether the last line started with a blank. -/
  blankLine : Bool := false
  /-- The ends of the empty lines behind the last line. -/
  breaks : List Char := []
  deriving DecidableEq, Repr

/-- The value of a hexadecimal digit. -/
def hexValue? (c : Char) : Option Nat :=
  if c.isDigit then some (c.toNat - '0'.toNat)
  else if 'a' ≤ c && c ≤ 'f' then some (c.toNat - 'a'.toNat + 10)
  else if 'A' ≤ c && c ≤ 'F' then some (c.toNat - 'A'.toNat + 10)
  else none

/-- The number written in hexadecimal digits. -/
def ofHex? (digits : List Char) : Option Nat := do
  let values ← digits.mapM hexValue?
  some (values.foldl (fun n d => 16 * n + d) 0)

/-- The escapes of one letter in a double-quoted scalar. -/
def escapes : List (Char × Nat) :=
  [('0', 0), ('a', 7), ('b', 8), ('t', 9), ('\t', 9), ('n', 10), ('v', 11), ('f', 12),
    ('r', 13), ('e', 0x1B), (' ', 0x20), ('"', 0x22), (Char.ofNat 0x27, 0x27), ('\\', 0x5C),
    ('N', 0x85), ('_', 0xA0), ('L', 0x2028), ('P', 0x2029)]

/-- The number of hexadecimal digits behind an escape. -/
def escapeLength? (c : Char) : Option Nat :=
  if c = 'x' then some 2 else if c = 'u' then some 4 else if c = 'U' then some 8 else none

/-- A sign of a block header. -/
def chomping? (c : Char) : Option Chomping :=
  if c = '+' then some .keep else if c = '-' then some .strip else none

namespace Scan

/-- Read a gap behind a part of it.  No tab may stand before the given column
of a new line. -/
def gap (indent : Int) : Nat → Gap → Scan Gap
  | 0, g => return g
  | fuel + 1, g => do
    let ch ← peek
    if isBlank ch then
      if g.folded && ch = '\t' && ((← get).column : Int) < indent then failure
      else
        skip
        need 1
        gap indent fuel (if g.folded then g else { g with blanks := ch :: g.blanks })
    else if isBreak ch then
      need 2
      let lineEnd ← readLine
      need 1
      gap indent fuel
        (if g.folded then { g with more := lineEnd ++ g.more }
        else { folded := true, first := lineEnd })
    else return g

/-- Whether a plain scalar ends before the next character. -/
def endsPlain (inFlow : Bool) : Scan Bool := do
  let ch ← peek
  return isGap ch || (ch = ':' && isGap (← peekAt 1)) ||
    (inFlow && (ch = ',' || ch = '?' || ch = '[' || ch = ']' || ch = '\x7b' || ch = '\x7d'))

/-- Read one word of a plain scalar behind a part of it, the last character
first. -/
def plainWord (inFlow : Bool) : Nat → List Char → Scan (List Char)
  | 0, word => return word
  | fuel + 1, word => do
    if ← endsPlain inFlow then return word
    else
      let ch ← peek
      skip
      need 2
      plainWord inFlow fuel (ch :: word)

/-- Read the words of a plain scalar as long as they are indented.  The text
read already has its last character first. -/
def plain (inFlow : Bool) (indent : Int) : Nat → List Char → Gap → Scan Plain
  | 0, text, g => return ⟨text.reverse, g.folded⟩
  | fuel + 1, text, g => do
    need 4
    if (← atDocumentMark) || (← peek) = '#' then return ⟨text.reverse, g.folded⟩
    else
      let word ← plainWord inFlow (← get).size []
      let text := if word.isEmpty then text else word ++ g.text.reverse ++ text
      let g := if word.isEmpty then g else {}
      let ch ← peek
      if !(isBlank ch || isBreak ch) then return ⟨text.reverse, g.folded⟩
      else
        need 1
        let g ← gap indent (← get).size {}
        if !inFlow && ((← get).column : Int) < indent then return ⟨text.reverse, g.folded⟩
        else plain inFlow indent fuel text g

/-- Read the character that an escape stands for, behind its backslash. -/
def escape : Scan Char := do
  let letter ← peek
  match escapeLength? letter with
  | some n =>
    skip
    need n
    let digits := (← get).buffer.take n
    match ofHex? digits with
    | some value =>
      if value.isValidChar && digits.length = n then
        skipMany n
        return Char.ofNat value
      else failure
    | none => failure
  | none =>
    match escapes.lookup letter with
    | some value =>
      skip
      return Char.ofNat value
    | none => failure

/-- Read one word of a quoted scalar behind a part of it, the last character
first, and whether an escaped line end follows it. -/
def quotedWord (quote : Char) : Nat → List Char → Scan (List Char × Bool)
  | 0, word => return (word, false)
  | fuel + 1, word => do
    let ch ← peek
    if isGap ch then return (word, false)
    else if ch = quote then
      if quote ≠ '"' && (← peekAt 1) = quote then
        skipMany 2
        need 2
        quotedWord quote fuel (quote :: word)
      else return (word, false)
    else if quote = '"' && ch = '\\' then
      if isBreak (← peekAt 1) then
        need 3
        skip
        skipLine
        return (word, true)
      else
        skip
        let ch ← escape
        need 2
        quotedWord quote fuel (ch :: word)
    else
      skip
      need 2
      quotedWord quote fuel (ch :: word)

/-- Read a quoted scalar up to and including its closing quote.  The text read
already has its last character first. -/
def quoted (quote : Char) : Nat → List Char → Scan (List Char)
  | 0, _ => failure
  | fuel + 1, text => do
    need 4
    if (← atDocumentMark) || (← peek) = endMark then failure
    else
      let (word, escaped) ← quotedWord quote (← get).size []
      let text := word ++ text
      need 1
      if (← peek) = quote then
        skip
        return text.reverse
      else
        let g ← gap (-1) (← get).size { folded := escaped }
        quoted quote fuel (g.text.reverse ++ text)

/-- Read a digit other than zero, if there is a digit. -/
def increment : Scan Nat := do
  let ch ← peek
  if ch = '0' then failure
  else if ch.isDigit then
    skip
    return ch.toNat - '0'.toNat
  else return 0

/-- Read the signs behind the first character of a block scalar.  There may be
a chomping sign and a digit, in either order. -/
def blockHeader : Scan BlockHeader := do
  need 1
  match chomping? (← peek) with
  | some chomping =>
    skip
    need 1
    return ⟨chomping, ← increment⟩
  | none =>
    let n ← increment
    if n = 0 then return {}
    else
      need 1
      match chomping? (← peek) with
      | some chomping =>
        skip
        return ⟨chomping, n⟩
      | none => return ⟨.clip, n⟩

/-- Read the rest of a line, which may hold a comment. -/
def lineRest : Scan Unit := do
  pass isBlank
  if (← peek) = '#' then pass fun ch => !isStop ch
  let ch ← peek
  if isBreak ch then
    need 2
    skipLine
  else if ch ≠ endMark then failure

/-- Pass over the blanks before a column, or over all of them if it is zero. -/
def indentation (indent : Nat) : Nat → Scan Unit
  | 0 => return ()
  | fuel + 1 => do
    if (indent = 0 || (← get).column < indent) && (← peek) = ' ' then
      skip
      need 1
      indentation indent fuel

/-- Read the indentation and the empty lines before a line of a block scalar:
the line ends behind those read already, the last first, and the deepest column
reached.  Without a known indentation all blanks belong to it; a tab does
not. -/
def blockBreaks (indent : Nat) : Nat → List Char → Nat → Scan (List Char × Nat)
  | 0, breaks, deepest => return (breaks.reverse, deepest)
  | fuel + 1, breaks, deepest => do
    need 1
    indentation indent (← get).size
    let column := (← get).column
    let deepest := max deepest column
    let ch ← peek
    if (indent = 0 || column < indent) && ch = '\t' then failure
    else if isBreak ch then
      need 2
      let lineEnd ← readLine
      blockBreaks indent fuel (lineEnd ++ breaks) deepest
    else return (breaks.reverse, deepest)

/-- Read the lines of a block scalar.  In a folded one a single line end
between two lines that start with no blank is a blank. -/
def blockLines (literal : Bool) (indent : Nat) : Nat → Block → Scan Block
  | 0, b => return b
  | fuel + 1, b => do
    let ch ← peek
    if (← get).column ≠ indent || ch = endMark then return b
    else
      let blank := isBlank ch
      let folds := !literal && !b.blankLine && !blank && b.lastBreak = ['\n']
      let joint := if folds then (if b.breaks.isEmpty then [' '] else []) else b.lastBreak
      let start := (joint ++ b.breaks).reverse ++ b.text
      let text ← readWhile (fun ch => !isStop ch) (← get).size start
      need 2
      let lastBreak ← readLine
      let (breaks, _) ← blockBreaks indent (← get).size [] 0
      blockLines literal indent fuel { text, lastBreak, blankLine := blank, breaks }

/-- Read a block scalar behind its first character, inside a block with the
given indentation. -/
def block (literal : Bool) (outer : Int) : Scan (List Char) := do
  let header ← blockHeader
  lineRest
  let given :=
    if header.increment = 0 then 0
    else if 0 ≤ outer then outer.toNat + header.increment
    else header.increment
  let (breaks, deepest) ← blockBreaks given (← get).size [] 0
  let indent := if given = 0 then max (max deepest (outer + 1).toNat) 1 else given
  need 1
  let b ← blockLines literal indent (← get).size { breaks }
  let text := b.text.reverse
  return match header.chomping with
    | .strip => text
    | .clip => text ++ b.lastBreak
    | .keep => text ++ b.lastBreak ++ b.breaks

end Scan

end AssetMinifier.Yaml
