import AssetMinifier.Yaml.Token

/-!
# Nodes

The tree of a document's first part: scalars, sequences, mappings, and references
to nodes that were given a name.  A reference may stand inside the node that it
refers to.  What follows the first document is read only as far as the tokens
have to be known.
-/

namespace AssetMinifier.Yaml

/-- A node of a document. -/
inductive Node where
  /-- A scalar, with its tag if it has one.  A plain scalar without a tag may
  stand for something other than its text. -/
  | scalar (tag : Option Text) (plain : Bool) (value : String)
  | sequence (items : List Node)
  | mapping (pairs : List (Node × Node))
  /-- The reference with a number, to the named node with a number. -/
  | reference (serial : Nat) (name : Text) (target : Nat)

/-- A scalar of which nothing is written. -/
def Node.empty : Node :=
  .scalar none true ""

/-- The content of a document. -/
structure Content where
  root : Node
  /-- The number of the line of the root. -/
  line : Nat
  /-- The nodes that were given a name, in the order in which they start. -/
  named : Array Node
  /-- The number of references. -/
  references : Nat
  /-- More than the number of characters, which bounds the depth of the tree. -/
  size : Nat

/-- The state of building nodes. -/
structure Composer where
  reader : Reader
  /-- The names given so far and the numbers of their nodes, the last first. -/
  names : List (Text × Nat) := []
  /-- The nodes of the names.  A node that is still being built is empty. -/
  named : Array Node := #[]
  /-- The number of references so far. -/
  references : Nat := 0
  /-- The handles of tags and what they stand for. -/
  handles : List (Text × Text) := [("!", "!"), ("!!", "tag:yaml.org,2002:")]

/-- Building a part of the tree, which may fail. -/
abbrev Compose := StateT Composer Option

namespace Compose

/-- Read tokens. -/
def read {α : Type} (s : Read α) : Compose α := fun c =>
  (s c.reader).map fun (a, r) => (a, { c with reader := r })

/-- The next token. -/
def peek : Compose Token := do
  return (← read Read.peek).token

/-- Pass over a token. -/
def skip : Compose Unit :=
  read Read.skip

/-- Name a node that is about to be built, and return its number. -/
def openName (anchor : Option Text) : Compose (Option Nat) := do
  match anchor with
  | some a =>
    let n := (← get).named.size
    modify fun s =>
      { s with names := (a, n) :: s.names, named := s.named.push .empty }
    return some n
  | none => return none

/-- The node with a number is built. -/
def closeName (number : Option Nat) (n : Node) : Compose Node := do
  match number with
  | some i => modify fun s => { s with named := s.named.setIfInBounds i n }
  | none => pure ()
  return n

/-- The anchor and the tag before a node. -/
structure Properties where
  anchor : Option Text := none
  tag : Option Text := none

/-- The full form of a tag.  The tags of the core are shortened again. -/
def expandTag (t : Tag) : Compose Text := do
  let full ←
    if t.handle.isEmpty then pure t.suffix
    else
      match (← get).handles.lookup t.handle with
      | some expansion => pure (expansion ++ t.suffix)
      | none => failure
  match Text.dropLead? "tag:yaml.org,2002:" full with
  | some short => return "!!" ++ short
  | none => return full

/-- Read an anchor and a tag, each at most once and in either order. -/
def properties : Compose Properties := do
  match ← peek with
  | .anchor a =>
    skip
    match ← peek with
    | .tag t =>
      skip
      let _ ← peek
      return ⟨some a, some (← expandTag t)⟩
    | _ => return ⟨some a, none⟩
  | .tag t =>
    skip
    match ← peek with
    | .anchor a =>
      skip
      let _ ← peek
      return ⟨some a, some (← expandTag t)⟩
    | _ => return ⟨none, some (← expandTag t)⟩
  | _ => return {}

/-- A reference to the node of a name. -/
def reference (a : Text) : Compose Node := do
  let s ← get
  match s.names.lookup a with
  | some n =>
    set { s with references := s.references + 1 }
    return .reference s.references a n
  | none => failure

/-- A scalar with properties. -/
def scalar (p : Properties) (plain : Bool) (text : List Char) : Compose Node := do
  let number ← openName p.anchor
  closeName number (.scalar (p.tag.filter (· ≠ [0x21])) plain (String.ofList text))

/-- A node of which only the properties are written. -/
def absent (p : Properties) : Compose Node :=
  if p.anchor.isSome || p.tag.isSome then scalar p true [] else failure

mutual

/-- Build a node.  In block style collections may be opened by indentation, and
where a mapping is open a sequence need not be indented further. -/
def node (block indentless : Bool) : Nat → Compose Node
  | 0 => failure
  | fuel + 1 => do
    match ← peek with
    | .reference a =>
      skip
      reference a
    | _ =>
      let p ← properties
      match ← peek with
      | .scalar plain text =>
        skip
        scalar p plain text
      | .flowSequence =>
        let number ← openName p.anchor
        skip
        closeName number (.sequence (← flowItems true fuel))
      | .flowMapping =>
        let number ← openName p.anchor
        skip
        closeName number (.mapping (← flowPairs true fuel))
      | .dash =>
        if indentless then
          let number ← openName p.anchor
          closeName number (.sequence (← indentlessItems fuel))
        else absent p
      | .blockSequence =>
        if block then
          let number ← openName p.anchor
          skip
          closeName number (.sequence (← blockItems fuel))
        else absent p
      | .blockMapping =>
        if block then
          let number ← openName p.anchor
          skip
          closeName number (.mapping (← blockPairs fuel))
        else absent p
      | _ => absent p

/-- The entries of a block sequence. -/
def blockItems : Nat → Compose (List Node)
  | 0 => failure
  | fuel + 1 => do
    match ← peek with
    | .dash =>
      skip
      let item ←
        match ← peek with
        | .dash => pure Node.empty
        | .blockEnd => pure Node.empty
        | _ => node true false fuel
      return item :: (← blockItems fuel)
    | .blockEnd =>
      skip
      return []
    | _ => failure

/-- The entries of a sequence that is not indented further than its key. -/
def indentlessItems : Nat → Compose (List Node)
  | 0 => failure
  | fuel + 1 => do
    match ← peek with
    | .dash =>
      skip
      let item ←
        match ← peek with
        | .dash => pure Node.empty
        | .key => pure Node.empty
        | .value => pure Node.empty
        | .blockEnd => pure Node.empty
        | _ => node true false fuel
      return item :: (← indentlessItems fuel)
    | _ => return []

/-- A key or value of a block mapping, which may be empty. -/
def blockPart : Nat → Compose Node
  | 0 => failure
  | fuel + 1 => do
    match ← peek with
    | .key => return .empty
    | .value => return .empty
    | .blockEnd => return .empty
    | _ => node true true fuel

/-- The pairs of a block mapping. -/
def blockPairs : Nat → Compose (List (Node × Node))
  | 0 => failure
  | fuel + 1 => do
    match ← peek with
    | .key =>
      skip
      let k ← blockPart fuel
      let v ←
        match ← peek with
        | .value => do
          skip
          blockPart fuel
        | _ => pure Node.empty
      return (k, v) :: (← blockPairs fuel)
    | .blockEnd =>
      skip
      return []
    | _ => failure

/-- The entries of a sequence in brackets. -/
def flowItems (first : Bool) : Nat → Compose (List Node)
  | 0 => failure
  | fuel + 1 => do
    match ← peek with
    | .flowSequenceEnd =>
      skip
      return []
    | t =>
      if !first then
        if t = .comma then skip else failure
      match ← peek with
      | .flowSequenceEnd =>
        skip
        return []
      | .key =>
        skip
        let pair ← flowItemPair fuel
        return .mapping [pair] :: (← flowItems false fuel)
      | _ =>
        let item ← node false false fuel
        return item :: (← flowItems false fuel)

/-- A single pair as the entry of a sequence in brackets. -/
def flowItemPair : Nat → Compose (Node × Node)
  | 0 => failure
  | fuel + 1 => do
    let k ←
      match ← peek with
      | .value => do
        skip
        pure Node.empty
      | .comma => do
        skip
        pure Node.empty
      | .flowSequenceEnd => do
        skip
        pure Node.empty
      | _ => node false false fuel
    match ← peek with
    | .value =>
      skip
      match ← peek with
      | .comma => return (k, .empty)
      | .flowSequenceEnd => return (k, .empty)
      | _ => return (k, ← node false false fuel)
    | _ => return (k, .empty)

/-- The pairs of a mapping in braces. -/
def flowPairs (first : Bool) : Nat → Compose (List (Node × Node))
  | 0 => failure
  | fuel + 1 => do
    match ← peek with
    | .flowMappingEnd =>
      skip
      return []
    | t =>
      if !first then
        if t = .comma then skip else failure
      match ← peek with
      | .flowMappingEnd =>
        skip
        return []
      | .key =>
        skip
        let k ←
          match ← peek with
          | .value => pure Node.empty
          | .comma => pure Node.empty
          | .flowMappingEnd => pure Node.empty
          | _ => node false false fuel
        let v ←
          match ← peek with
          | .value => do
            skip
            match ← peek with
            | .comma => pure Node.empty
            | .flowMappingEnd => pure Node.empty
            | _ => node false false fuel
          | _ => pure Node.empty
        return (k, v) :: (← flowPairs false fuel)
      | _ =>
        let k ← node false false fuel
        return (k, .empty) :: (← flowPairs false fuel)

end

/-- Read the directives before a document.  Only one version is known, and no
handle may be given twice. -/
def directives (versioned : Bool) (given : List Text) : Nat → Compose Unit
  | 0 => failure
  | fuel + 1 => do
    match ← peek with
    | .directive (.version major minor) =>
      if versioned || major ≠ 1 || minor ≠ 1 then failure
      else
        skip
        directives true given fuel
    | .directive (.handle name expansion) =>
      if given.contains name then failure
      else
        skip
        modify fun s => { s with handles := (name, expansion) :: s.handles }
        directives versioned (name :: given) fuel
    | .documentStart => skip
    | _ => failure

/-- The root of the first document and the number of its line, if there is a
document. -/
def document : Compose (Option (Node × Nat)) := do
  let fuel := 4 * (← get).reader.cursor.size
  let root := do
    let line := (← read Read.peek).line
    let n ← node true false fuel
    let _ ← peek
    return some (n, line)
  match ← peek with
  | .streamEnd => return none
  | .directive _ | .documentStart =>
    directives false [] fuel
    match ← peek with
    | .directive _ | .documentStart | .documentEnd | .streamEnd => return none
    | _ => root
  | _ => root

end Compose

/-- The content of a document.  The outer option is empty if the document is
malformed, the inner one if it holds nothing. -/
def content? (s : Source) : Option (Option Content) := do
  let (found, c) ← Compose.document.run { reader := { cursor := Cursor.start s } }
  match found with
  | some (root, line) => some (some ⟨root, line, c.named, c.references, c.reader.cursor.size⟩)
  | none => some none

end AssetMinifier.Yaml
