import AssetMinifier.Yaml.Scalar

/-!
# Names, tags and directives

What stands before the content of a node: the name that an anchor gives to it
and the tag that says what it is; and what stands before the content of a
document: its version and the handles of its tags.
-/

namespace AssetMinifier.Yaml

/-- Whether a character may stand in a name. -/
def isNameChar (c : Char) : Bool :=
  c.isAlphanum || c = '_' || c = '-'

/-- Whether a character may stand in a tag. -/
def isTagChar (c : Char) : Bool :=
  isNameChar c || ";/?:@&=+$,.!~*()[]%".toList.contains c || c.toNat = 0x27

/-- Whether the name of an anchor may end before a character. -/
def endsName (c : Char) : Bool :=
  isGap c || "?:,]\x7d%@\x60".toList.contains c

/-- A handle and what follows it in a tag. -/
structure Tag where
  handle : Text
  suffix : Text
  deriving DecidableEq, Repr

/-- A directive before a document. -/
inductive Directive where
  | version (major minor : Nat)
  | handle (name expansion : Text)
  deriving DecidableEq, Repr

namespace Scan

/-- Read the name of an anchor or reference behind its mark. -/
def name : Scan Text := do
  let name ← span isNameChar
  if name.isEmpty || !endsName (← peek) then failure
  else return String.ofList name

/-- Read a byte that is written as a percent sign and two digits. -/
def escapedByte : Scan UInt8 := do
  need 3
  let digits := ((← get).buffer.drop 1).take 2
  match ofHex? digits with
  | some n =>
    if (← peek) = '%' && digits.length = 2 then
      skipMany 3
      return UInt8.ofNat n
    else failure
  | none => failure

/-- Read the escaped bytes that follow the first one of a character. -/
def escapedTail : Nat → Scan Text
  | 0 => return []
  | n + 1 => do
    let b ← escapedByte
    if b &&& 0xC0 = 0x80 then return b :: (← escapedTail n) else failure

/-- Read a character whose bytes are escaped. -/
def escapedChar : Scan Text := do
  let b ← escapedByte
  let size := Encoding.leadSize b
  if size = 0 then failure else return b :: (← escapedTail (size - 1))

/-- Read the text of a tag behind a part of it. -/
def tagText : Nat → Text → Scan Text
  | 0, text => return text
  | fuel + 1, text => do
    need 1
    let ch ← peek
    if ch = '%' then tagText fuel (text ++ (← escapedChar))
    else if isTagChar ch then
      skip
      tagText fuel (text ++ String.utf8EncodeChar ch)
    else return text

/-- Read the text of a tag, which must not be empty. -/
def tagRest : Scan Text := do
  let text ← tagText (← get).size []
  if text.isEmpty then failure else return text

/-- Read the handle of a tag as far as it goes, and whether an exclamation mark
closes it. -/
def tagHandle : Scan (Text × Bool) := do
  need 1
  if (← peek) ≠ '!' then failure
  else
    skip
    let name ← span isNameChar
    let handle : Text := String.ofList ('!' :: name)
    if (← peek) = '!' then
      skip
      return (handle ++ [0x21], true)
    else return (handle, false)

/-- Read a tag: verbatim, with a handle, or with the primary handle.  An
exclamation mark alone is the tag of that name. -/
def tag : Scan Tag := do
  need 2
  let t ←
    if (← peekAt 1) = '<' then
      skipMany 2
      let text ← tagRest
      if (← peek) = '>' then
        skip
        pure ⟨[], text⟩
      else failure
    else
      let (handle, closed) ← tagHandle
      if closed then pure ⟨handle, ← tagRest⟩
      else
        let text ← tagText (← get).size handle.tail
        pure (if text.isEmpty then ⟨[], [0x21]⟩ else ⟨[0x21], text⟩)
  need 1
  if isGap (← peek) then return t else failure

/-- Read a number of one or two digits. -/
def versionNumber : Scan Nat := do
  let digits ← span Char.isDigit
  if digits.isEmpty || 2 < digits.length then failure
  else return digits.foldl (fun n d => 10 * n + (d.toNat - '0'.toNat)) 0

/-- Read a directive behind its percent sign, up to the end of its line. -/
def directive : Scan Directive := do
  let name ← span isNameChar
  if !isGap (← peek) then failure
  else
    let d ←
      if name = "YAML".toList then
        pass isBlank
        let major ← versionNumber
        if (← peek) = '.' then
          skip
          pure (Directive.version major (← versionNumber))
        else failure
      else if name = "TAG".toList then
        pass isBlank
        let (handle, closed) ← tagHandle
        need 1
        if (!closed && handle ≠ [0x21]) || !isBlank (← peek) then failure
        else
          pass isBlank
          let expansion ← tagRest
          need 1
          if isGap (← peek) then pure (Directive.handle handle expansion) else failure
      else failure
    lineRest
    return d

end Scan

end AssetMinifier.Yaml
