import AssetMinifier.Text.CellClass

/-!
# Cell widths

The number of terminal cells that a line of text takes.  Escape sequences and
control characters take none, other ASCII characters one.  From a byte that
starts a longer character on, a whole visible unit is measured: a pictograph,
a flag or a Korean syllable counts once, with all that is joined to it.
-/

namespace AssetMinifier

/-- What a terminal is in the middle of reading. -/
inductive TerminalState where
  | ground
  /-- Behind the escape character. -/
  | escape
  /-- In an escape sequence, behind an intermediate byte. -/
  | escapeTail
  /-- In a control sequence. -/
  | sequence
  /-- In a control sequence, behind an intermediate byte. -/
  | sequenceTail
  /-- In a system command. -/
  | command
  /-- At the start of a device control string. -/
  | device
  /-- In the parameters of a device control string. -/
  | deviceParameter
  /-- In a device control string, behind an intermediate byte. -/
  | deviceTail
  /-- In the data of a device control string. -/
  | deviceData
  /-- In another control string. -/
  | string
  deriving DecidableEq, Repr

namespace TerminalState

/-- What a byte leads to that has no meaning of its own in a state: the
single bytes above ASCII that control the terminal have one everywhere. -/
def anywhere (b : UInt8) : TerminalState :=
  if b = 0x9B then sequence
  else if b = 0x9D then command
  else if b = 0x90 then device
  else if b = 0x98 || b = 0x9E || b = 0x9F then string
  else ground

/-- What a byte directly behind the escape character leads to. -/
def afterEscape (b : UInt8) : TerminalState :=
  if b < 0x20 || b = 0x7F then escape
  else if b < 0x30 then escapeTail
  else if b = 0x5B then sequence
  else if b = 0x5D then command
  else if b = 0x50 then device
  else if b = 0x58 || b = 0x5E || b = 0x5F then string
  else anywhere b

/-- What a byte behind the introducer of a device control string or its
parameters leads to, where control bytes change nothing. -/
def afterDevice (s : TerminalState) (b : UInt8) : TerminalState :=
  if b < 0x20 || b = 0x7F then s
  else if b < 0x30 then deviceTail
  else if b < 0x40 then (if s = deviceTail then deviceData else deviceParameter)
  else if b < 0x7F then deviceData
  else anywhere b

/-- The state after one more byte. -/
def next (s : TerminalState) (b : UInt8) : TerminalState :=
  if b = 0x1B then (if s = device then deviceData else escape)
  else if b = 0x18 || b = 0x1A then ground
  else
    match s with
    | ground => anywhere b
    | escape => afterEscape b
    | escapeTail => if b < 0x30 || b = 0x7F then escapeTail else anywhere b
    | sequence =>
      if b < 0x20 || b = 0x7F || (0x30 ≤ b && b < 0x40) then sequence
      else if b < 0x30 then sequenceTail
      else anywhere b
    | sequenceTail => if b < 0x30 || b = 0x7F then sequenceTail else anywhere b
    | command => if b = 0x07 || b = 0x9C then ground else command
    | device => if 0x08 ≤ b && b ≤ 0x0D then deviceData else afterDevice device b
    | deviceParameter => afterDevice deviceParameter b
    | deviceTail => afterDevice deviceTail b
    | deviceData => if b = 0x9C then ground else deviceData
    | string => if b < 0x80 then string else anywhere b

/-- Whether text is only collected, not shown, whatever its bytes are. -/
def collects : TerminalState → Bool
  | command => true
  | deviceData => true
  | _ => false

end TerminalState

/-- What the end of a visible unit can be joined with. -/
inductive Bond where
  | none
  | control
  | prepended
  | leading
  | vowel
  | trailing
  /-- A pictograph and marks on it. -/
  | pictograph
  /-- A pictograph, marks on it, and a joiner. -/
  | joined
  /-- Half of a flag. -/
  | halfFlag
  | flag
  deriving DecidableEq, Repr

namespace Bond

/-- The end of a unit that consists of one character. -/
def ofClass : CellClass → Bond
  | .control => control
  | .prepended => prepended
  | .leading => leading
  | .vowel _ => vowel
  | .trailing _ => trailing
  | .pictograph => pictograph
  | .regional => halfFlag
  | _ => none

/-- The end of a unit with one more character. -/
def next : Bond → CellClass → Bond
  | pictograph, .extending => pictograph
  | pictograph, .joiner => joined
  | halfFlag, .regional => flag
  | _, c => ofClass c

/-- Whether a character belongs to the unit before it.  Nothing belongs to a
control character; marks and joiners belong to everything else, and a sign that
belongs to the character behind it takes any. -/
def joins : Bond → CellClass → Bool
  | control, _ => false
  | _, .control => false
  | _, .extending => true
  | _, .joiner => true
  | _, .spacing => true
  | prepended, _ => true
  | leading, .leading => true
  | leading, .vowel _ => true
  | leading, .trailing whole => whole
  | vowel, .vowel whole => !whole
  | vowel, .trailing whole => !whole
  | trailing, .trailing whole => !whole
  | joined, .pictograph => true
  | halfFlag, .regional => true
  | _, _ => false

end Bond

/-- A visible unit that is being read. -/
structure Cluster where
  first : CellClass
  bond : Bond
  cells : Nat
  bytes : Nat
  deriving DecidableEq, Repr

namespace Cluster

/-- The unit that consists of one rune. -/
def ofRune (r : Rune) : Cluster :=
  let c := CellClass.ofPoint r.codePoint
  ⟨c, Bond.ofClass c, pointCells c r.codePoint, r.bytes.length⟩

/-- The unit with one more rune.  A pictograph can be told to take one cell or
two, and the cells of flags and syllables are counted at their start. -/
def add (k : Cluster) (r : Rune) (c : CellClass) : Cluster :=
  let cells :=
    match k.first with
    | .pictograph =>
      if r.codePoint = 0xFE0E then 1 else if r.codePoint = 0xFE0F then 2 else k.cells
    | .regional => k.cells
    | .leading => k.cells
    | _ => k.cells + pointCells c r.codePoint
  ⟨k.first, k.bond.next c, cells, k.bytes + r.bytes.length⟩

/-- Extend a unit as far as the runes behind it belong to it, when the given
number of bytes belong to its last rune. -/
def extend (k : Cluster) : Nat → Text → Cluster
  | _, [] => k
  | skip + 1, _ :: t => k.extend skip t
  | 0, b :: t =>
    let r := Text.firstRune b t
    let c := CellClass.ofPoint r.codePoint
    if k.bond.joins c then (k.add r c).extend (r.bytes.length - 1) t else k

end Cluster

namespace Text

/-- The first visible unit of a text that starts with a byte. -/
def firstCluster (b : UInt8) (t : Text) : Cluster :=
  let r := firstRune b t
  (Cluster.ofRune r).extend (r.bytes.length - 1) t

/-- The number of cells of a text, when the given number of its bytes have been
measured already. -/
def cellsFrom : TerminalState → Nat → Text → Nat
  | _, _, [] => 0
  | s, skip + 1, _ :: t => cellsFrom s skip t
  | s, 0, b :: t =>
    if 0xC2 ≤ b && b ≤ 0xF4 && !s.collects then
      let k := firstCluster b t
      k.cells + cellsFrom .ground (k.bytes - 1) t
    else
      let shown := s = .ground && 0x20 ≤ b && b ≤ 0x7E
      (if shown then 1 else 0) + cellsFrom (s.next b) 0 t

/-- The number of terminal cells that a line takes. -/
def cells (t : Text) : Nat :=
  cellsFrom .ground 0 t

end Text

end AssetMinifier
