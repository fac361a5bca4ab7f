import AssetMinifier.Yaml.Comment
import AssetMinifier.Yaml.Tag

/-!
# Tokens

A document is read as a sequence of tokens.  In block style the indentation
opens and closes collections, and a mapping key shows itself only by the colon
behind it: the tokens that announce the key are then put in before it.

Tokens are read when they are wanted.  A token is handed out when the two
behind it are known, and, as long as a key may start with it, when that is
decided.  So a document may be malformed behind the part that is wanted.
-/

namespace AssetMinifier.Yaml

/-- A token of a document. -/
inductive Token where
  | documentStart
  | documentEnd
  | streamEnd
  | directive (d : Directive)
  | blockSequence
  | blockMapping
  | blockEnd
  | flowSequence
  | flowSequenceEnd
  | flowMapping
  | flowMappingEnd
  | dash
  | comma
  | key
  | value
  | reference (name : Text)
  | anchor (name : Text)
  | tag (t : Tag)
  | scalar (plain : Bool) (text : List Char)
  deriving DecidableEq, Repr

/-- A token with the number of its line. -/
structure Located where
  token : Token
  line : Nat
  deriving DecidableEq, Repr

/-- A place where a key without a mark of its own may have started. -/
structure KeyStart where
  /-- Whether a key can still start there. -/
  possible : Bool := false
  /-- Whether only a key may stand there. -/
  required : Bool := false
  /-- The number of tokens before it. -/
  tokens : Nat := 0
  index : Nat := 0
  line : Nat := 0
  column : Nat := 0
  deriving DecidableEq, Repr

/-- The state of reading tokens. -/
structure Reader where
  cursor : Cursor
  /-- The tokens that are read but not handed out. -/
  queue : List Located := []
  /-- The number of tokens that are handed out. -/
  taken : Nat := 0
  /-- The column of the innermost block collection. -/
  indent : Int := -1
  /-- The columns of the collections around it. -/
  outer : List Int := []
  /-- Whether a key may start at the cursor. -/
  keyAllowed : Bool := true
  /-- The last place of a possible key at each depth of brackets. -/
  keys : Array KeyStart := #[{}]
  /-- The depths of the possible keys by the number of tokens before them. -/
  pending : List (Nat × Nat) := []

/-- Reading tokens, which may fail. -/
abbrev Read := StateT Reader Option

/-- The greatest depth of nested collections. -/
def maxDepth : Nat :=
  10000

/-- How many characters a key without a mark of its own may have. -/
def maxKeyLength : Nat :=
  1024

namespace Reader

/-- Whether the cursor is between brackets. -/
def inFlow (r : Reader) : Bool :=
  1 < r.keys.size

/-- The number of all tokens. -/
def count (r : Reader) : Nat :=
  r.taken + r.queue.length

/-- The possible keys but the one with a number of tokens before it. -/
def pendingBut (r : Reader) (tokens : Nat) : List (Nat × Nat) :=
  r.pending.eraseP (·.1 = tokens)

/-- Add a token that starts at a line. -/
def push (r : Reader) (line : Nat) (t : Token) : Reader :=
  { r with queue := r.queue ++ [⟨t, line⟩] }

/-- Put a token before those from the given number on.  If that place was
handed out already, the token comes last. -/
def insertAt (r : Reader) (n : Nat) (line : Nat) (t : Token) : Reader :=
  if n < r.taken then r.push line t
  else
    { r with
      queue := r.queue.take (n - r.taken) ++ ⟨t, line⟩ :: r.queue.drop (n - r.taken) }

/-- Close the block collections that are indented further than a column. -/
def closeBlocks (column : Int) : List Int → Reader → Reader
  | [], r => r
  | i :: outer, r =>
    if column < r.indent then
      closeBlocks column outer
        { r.push r.cursor.line .blockEnd with indent := i, outer := outer }
    else r

/-- Close the block collections that are indented further than a column,
unless the cursor is between brackets. -/
def unroll (r : Reader) (column : Int) : Reader :=
  if r.inFlow then r else closeBlocks column r.outer r

/-- Whether a key that started at a place can still end at the cursor: on the
same line and not too far away. -/
def isNear (r : Reader) (k : KeyStart) : Bool :=
  r.cursor.line ≤ k.line && r.cursor.index ≤ k.index + maxKeyLength

end Reader

namespace Read

/-- Read characters. -/
def scan {α : Type} (s : Scan α) : Read α := fun r =>
  (s r.cursor).map fun (a, c) => (a, { r with cursor := c })

/-- Open a block collection at a column that is indented further than the
innermost one.  Its token goes before those from the given number on. -/
def roll (column : Nat) (at? : Option Nat) (line : Nat) (t : Token) : Read Unit := do
  let r ← get
  if r.inFlow || (column : Int) ≤ r.indent then return ()
  else if maxDepth ≤ r.outer.length then failure
  else
    let r := { r with outer := r.indent :: r.outer, indent := column }
    set (match at? with
      | some n => r.insertAt n line t
      | none => r.push line t)

/-- Give up the possible key at the current depth, unless it is required. -/
def dropKey : Read Unit := do
  let r ← get
  match r.keys.back? with
  | some k =>
    if !k.possible then return ()
    else if k.required then failure
    else
      set
        { r with
          keys := r.keys.pop.push { k with possible := false }
          pending := r.pendingBut k.tokens }
  | none => return ()

/-- Remember that a key may start at the cursor. -/
def saveKey : Read Unit := do
  if (← get).keyAllowed then
    dropKey
    modify fun r =>
      { r with
        keys := r.keys.pop.push
          { possible := true
            required := !r.inFlow && r.indent = r.cursor.column
            tokens := r.count
            index := r.cursor.index
            line := r.cursor.line
            column := r.cursor.column }
        pending := (r.count, r.keys.size - 1) :: r.pendingBut r.count }

/-- Whether a key may start at the place remembered for a depth.  A required
key has to end before it gets too far. -/
def keyIsOpen (depth : Nat) : Read Bool := do
  let r ← get
  match r.keys[depth]? with
  | some k =>
    if !k.possible then return false
    else if r.isNear k then return true
    else if k.required then failure
    else
      set { r with keys := r.keys.setIfInBounds depth { k with possible := false } }
      return false
  | none => return false

/-- Pass over blanks, comments and line ends up to a token.  Tabs count as
blanks where no key may start. -/
def toToken : Nat → Read Unit
  | 0 => return ()
  | fuel + 1 => do
    scan (Scan.need 1)
    let c := (← get).cursor
    if c.column = 0 && c.marked then scan Scan.skip
    let r ← get
    let tabs := r.inFlow || !r.keyAllowed
    scan (Scan.pass fun ch => ch = ' ' || (tabs && ch = '\t'))
    if (← scan Scan.peek) = '#' then scan Scan.skipComments
    if isBreak (← scan Scan.peek) then
      scan (Scan.need 2)
      scan Scan.skipLine
      modify fun r => { r with keyAllowed := r.keyAllowed || !r.inFlow }
      toToken fuel

/-- Read a token that starts at the cursor with a function for the token. -/
def token (s : Scan Token) : Read Unit := do
  let line := (← get).cursor.line
  let t ← scan s
  modify fun r => r.push line t

/-- Read a token of a number of characters. -/
def mark (n : Nat) (t : Token) : Read Unit :=
  token do
    Scan.skipMany n
    return t

/-- Say whether a key may start at the cursor. -/
def allowKey (b : Bool) : Read Unit :=
  modify fun r => { r with keyAllowed := b }

/-- Leave all block collections, before something that ends a document. -/
def leaveBlocks : Read Unit := do
  modify fun r => r.unroll (-1)
  dropKey
  allowKey false

/-- Read the end of the document, which starts a new line. -/
def finish : Read Unit := do
  modify fun r =>
    let c := r.cursor
    { r with
      cursor := if c.column = 0 then c else { c with column := 0, line := c.line + 1 } }
  leaveBlocks
  mark 0 .streamEnd

/-- Read an opening bracket. -/
def openFlow (t : Token) : Read Unit := do
  saveKey
  modify fun r =>
    let c := r.cursor
    { r with
      keys := r.keys.push
        { tokens := r.count, index := c.index, line := c.line, column := c.column } }
  if maxDepth + 1 < (← get).keys.size then failure
  else
    allowKey true
    mark 1 t

/-- Read a closing bracket. -/
def closeFlow (t : Token) : Read Unit := do
  dropKey
  modify fun r =>
    match r.keys.back? with
    | some k =>
      if r.inFlow then { r with keys := r.keys.pop, pending := r.pendingBut k.tokens } else r
    | none => r
  allowKey false
  mark 1 t

/-- Read the mark of an entry or of a key.  Outside brackets it opens a
collection and may stand only where a key may start. -/
def readMark (collection t : Token) (allow : Bool) : Read Unit := do
  let r ← get
  if !r.inFlow && !r.keyAllowed then failure
  else
    roll r.cursor.column none r.cursor.line collection
    dropKey
    allowKey allow
    mark 1 t

/-- Read the mark of a value.  If a key was possible before it, that key is
announced now. -/
def readValue : Read Unit := do
  let depth := (← get).keys.size - 1
  if ← keyIsOpen depth then
    let r ← get
    let k := r.keys.back?.getD {}
    set (r.insertAt k.tokens k.line .key)
    roll k.column (some k.tokens) k.line .blockMapping
    modify fun r =>
      { r with
        keys := r.keys.pop.push { k with possible := false }
        pending := r.pendingBut k.tokens }
    allowKey false
    mark 1 .value
  else
    let r ← get
    if r.inFlow then
      allowKey false
      mark 1 .value
    else if !r.keyAllowed then failure
    else
      roll r.cursor.column none r.cursor.line .blockMapping
      mark 1 .value

/-- Read a token with which a key may start. -/
def readStart (s : Scan Token) : Read Unit := do
  saveKey
  allowKey false
  token s

/-- Read a quoted scalar. -/
def readQuoted (quote : Char) : Read Unit :=
  readStart do
    Scan.skip
    return .scalar false (← Scan.quoted quote (← get).size [])

/-- Read a plain scalar.  A key may start behind it if a line ended there. -/
def readPlain : Read Unit := do
  saveKey
  let r ← get
  let p ← scan do Scan.plain r.inFlow (r.indent + 1) (← get).size [] {}
  modify fun s => { s.push r.cursor.line (.scalar true p.text) with keyAllowed := p.newLine }

/-- Read a block scalar. -/
def readBlock (literal : Bool) : Read Unit := do
  dropKey
  allowKey true
  let indent := (← get).indent
  token do
    Scan.skip
    return .scalar false (← Scan.block literal indent)

/-- Whether a plain scalar may start with a character before another one. -/
def startsPlain (inFlow : Bool) (ch next : Char) : Bool :=
  !(isGap ch || "-?:,[]\x7b\x7d#&*!|>%@\"\x60".toList.contains ch || ch.toNat = 0x27) ||
    (ch = '-' && !isBlank next) ||
    (!inFlow && (ch = '?' || ch = ':') && !isGap next)

/-- Read the token that starts with a character before another one. -/
def readAt (ch next : Char) : Read Unit := do
  let inFlow := (← get).inFlow
  match ch with
  | '[' => openFlow .flowSequence
  | '\x7b' => openFlow .flowMapping
  | ']' => closeFlow .flowSequenceEnd
  | '\x7d' => closeFlow .flowMappingEnd
  | ',' =>
    dropKey
    allowKey true
    mark 1 .comma
  | '*' =>
    readStart do
      Scan.skip
      return .reference (← Scan.name)
  | '&' =>
    readStart do
      Scan.skip
      return .anchor (← Scan.name)
  | '!' => readStart do return .tag (← Scan.tag)
  | '"' => readQuoted ch
  | ch =>
    if ch.toNat = 0x27 then readQuoted ch
    else if ch = '-' && isGap next then readMark .blockSequence .dash true
    else if ch = '?' && (inFlow || isGap next) then readMark .blockMapping .key !inFlow
    else if ch = ':' && (inFlow || isGap next) then readValue
    else if ch = '|' && !inFlow then readBlock true
    else if ch = '>' && !inFlow then readBlock false
    else if startsPlain inFlow ch next then readPlain
    else failure

/-- Read the next token.  A comment on its line is passed over with it, except
behind the mark of an entry. -/
def next : Read Unit := do
  toToken (← get).cursor.size
  modify fun r => r.unroll r.cursor.column
  scan (Scan.need 4)
  let ch ← scan Scan.peek
  if ch = endMark then finish
  else if (← get).cursor.column = 0 && ch = '%' then
    leaveBlocks
    token do
      Scan.skip
      return .directive (← Scan.directive)
  else if ← scan (Scan.atMark '-') then
    leaveBlocks
    mark 3 .documentStart
  else if ← scan (Scan.atMark '.') then
    leaveBlocks
    mark 3 .documentEnd
  else
    readAt ch (← scan (Scan.peekAt 1))
    if (← get).queue.getLast?.map Located.token ≠ some .dash then scan Scan.skipLineComment

/-- Read tokens until the first one can be handed out. -/
def prepare : Nat → Read Unit
  | 0 => failure
  | fuel + 1 => do
    let r ← get
    match r.queue with
    | _ :: _ :: _ :: _ =>
      match r.pending.lookup r.taken with
      | some depth =>
        if ← keyIsOpen depth then
          next
          prepare fuel
      | none => return ()
    | _ =>
      next
      prepare fuel

/-- The next token. -/
def peek : Read Located := do
  prepare (2 * (← get).cursor.size)
  match (← get).queue with
  | t :: _ => return t
  | [] => failure

/-- Hand out a token. -/
def skip : Read Unit :=
  modify fun r => { r with queue := r.queue.tail, taken := r.taken + 1 }

end Read

end AssetMinifier.Yaml
