import AssetMinifier.Yaml.Core
import AssetMinifier.Yaml.Node

/-!
# The values of nodes

A node is decoded to a value.  The key of a mapping occurs once; the key `<<`
brings in the pairs of other mappings, which count only for keys that are not
there yet.

References may repeat a node so often that the values become very large.  So
the steps of decoding are counted, and too great a share of steps inside
references is refused.
-/

namespace AssetMinifier.Yaml

/-- The number of steps of decoding so far. -/
structure Tally where
  steps : Nat := 0
  /-- The steps taken inside references. -/
  repeated : Nat := 0
  deriving DecidableEq, Repr

/-- Whether too many steps were taken inside references.  Up to 400000 steps
99 of 100 may be, from 4000000 steps on one of 10, and between these numbers the
share falls in a straight line. -/
def Tally.isExcessive (t : Tally) : Bool :=
  let tooMany :=
    if t.steps ≤ 400000 then 99 * t.steps < 100 * t.repeated
    else if 4000000 ≤ t.steps then t.steps < 10 * t.repeated
    else t.steps * (99 * 3600000 - 89 * (t.steps - 400000)) < 360000000 * t.repeated
  100 < t.repeated && 1000 < t.steps && tooMany

/-- Decoding, which may fail. -/
abbrev Decode := StateT Tally Option

/-- Where a node is decoded. -/
structure Scope where
  /-- The nodes with names. -/
  named : Array Node
  /-- The references that are being followed. -/
  active : List Nat := []

/-- Keys of a table that are not taken again, and the entries of the table. -/
structure Table where
  /-- The keys that pairs from elsewhere must not have, if this matters. -/
  seen : Option (List Value) := none
  entries : List (Value × Value) := []

namespace Node

/-- Whether two keys of a mapping count as the same. -/
def isSameKey : Node → Node → Bool
  | scalar _ _ s, scalar _ _ t => s = t
  | reference _ m _, reference _ n _ => m = n
  | sequence _, sequence _ => true
  | mapping _, mapping _ => true
  | _, _ => false

/-- Whether a key occurs twice. -/
def hasRepeatedKey : List (Node × Node) → Bool
  | [] => false
  | (k, _) :: pairs => (pairs.any fun p => isSameKey k p.1) || hasRepeatedKey pairs

/-- Whether a key brings in the pairs of other mappings. -/
def isMergeKey : Node → Bool
  | scalar none plain text => plain && text = "<<"
  | scalar (some tag) _ text => tag = "!!merge" && text = "<<"
  | _ => false

/-- Whether a scalar is a text. -/
def isText : Node → Bool
  | scalar none plain text => !plain || tagOf (infer true text) = "!!str"
  | scalar (some tag) _ _ => tag = "!!str"
  | _ => false

/-- The pairs of a mapping. -/
def pairs? : Node → Option (List (Node × Node))
  | mapping pairs => some pairs
  | _ => none

end Node

namespace Table

/-- Whether two values are the same as keys. -/
def isSame : Value → Value → Bool
  | .null, .null => true
  | .bool a, .bool b => a = b
  | .int m, .int n => m = n
  | .float x, .float y => x == y
  | .text s, .text t => s = t
  | .time s, .time t => s = t
  | _, _ => false

/-- Whether a value can be a key. -/
def isKey : Value → Bool
  | .list _ => false
  | .map _ => false
  | _ => true

/-- Put a value at a key, in place of the one that was there. -/
def put (key v : Value) : List (Value × Value) → List (Value × Value)
  | [] => [(key, v)]
  | (k, w) :: rest => if isSame key k then (k, v) :: rest else (k, w) :: put key v rest

/-- The name of a key. -/
def keyName : Value → Text
  | .null => "<nil>"
  | .bool b => if b then "true" else "false"
  | .int n => Text.ofInt n
  | .float x => Shortest.render x
  | .text t => t
  | .time t => t
  | .list _ => []
  | .map _ => []

/-- The entries of a table by the names of their keys. -/
def layer (t : Table) : Layer :=
  t.entries.map fun e => (keyName e.1, e.2)

end Table

namespace Decode

/-- Count one step. -/
def step (s : Scope) : Decode Unit := do
  let t ← get
  let t : Tally :=
    ⟨t.steps + 1, if s.active.isEmpty then t.repeated else t.repeated + 1⟩
  if t.isExcessive then failure else set t

/-- Succeed with a value if there is one. -/
def ofOption {α : Type} (a? : Option α) : Decode α :=
  match a? with
  | some a => return a
  | none => failure

/-- The target of a reference, and the scope of following it.  No reference is
followed inside itself. -/
def follow (s : Scope) (serial target : Nat) : Decode (Scope × Node) := do
  if s.active.contains serial then failure
  else return ({ s with active := serial :: s.active }, ← ofOption s.named[target]?)

/-- Whether a key is a text or brings in other pairs. -/
def isPlainKey (s : Scope) : Node → Bool
  | .reference _ _ target => s.named[target]?.any fun n => n.isText || n.isMergeKey
  | k => k.isText || k.isMergeKey

/-- The text of a scalar as the key of a table whose keys are texts.  Nothing
stands for no key. -/
def scalarKey (s : Scope) : Node → Decode (Option Value)
  | .scalar tag plain text => do
    step s
    match ← ofOption (resolve? tag plain text) with
    | .null => return none
    | .text t => return some (.text t)
    | _ => return some (.text text)
  | _ => failure

/-- The key of a table whose keys are texts. -/
def textKey (s : Scope) : Node → Decode (Option Value)
  | .reference serial _ target => do
    step s
    let (s, n) ← follow s serial target
    scalarKey s n
  | k => scalarKey s k

mutual

/-- The value of a node. -/
def value : Nat → Scope → Node → Decode Value
  | 0, _, _ => failure
  | fuel + 1, s, n => do
    step s
    match n with
    | .scalar tag plain text => ofOption (resolve? tag plain text)
    | .sequence items => return .list (← items.mapM (value fuel s))
    | .mapping pairs =>
      let textual := pairs.all fun p => isPlainKey s p.1
      return .map (← table fuel textual s pairs {}).layer
    | .reference serial _ target =>
      let (s, n) ← follow s serial target
      value fuel s n

/-- A table with the pairs of a mapping.  The pairs that it brings in come
last. -/
def table (fuel : Nat) (textual : Bool) (s : Scope) (pairs : List (Node × Node))
    (t : Table) : Decode Table :=
  match fuel with
  | 0 => failure
  | fuel + 1 => do
    if Node.hasRepeatedKey pairs then failure
    else
      let own := pairs.filter fun p => !p.1.isMergeKey
      let t ← own.foldlM (fun t p => do
        let key? ← if textual then textKey s p.1 else some <$> value fuel s p.1
        match key? with
        | none => return t
        | some key =>
          if t.seen.any fun keys => keys.any (Table.isSame key) then return t
          else if !Table.isKey key then failure
          else
            let v ← value fuel s p.2
            return ⟨t.seen.map (key :: ·), Table.put key v t.entries⟩) t
      match pairs.find? fun p => p.1.isMergeKey with
      | none => return t
      | some (_, source) =>
        let seen ←
          match t.seen with
          | some keys => pure keys
          | none => pairs.mapM fun p => value fuel s p.1
        let merged ← merge fuel textual s source { t with seen := some seen }
        return { merged with seen := t.seen.bind fun _ => merged.seen }

/-- A table with the pairs that a node brings in: a mapping, a reference to
one, or a sequence of these. -/
def merge (fuel : Nat) (textual : Bool) (s : Scope) (source : Node) (t : Table) :
    Decode Table :=
  match fuel with
  | 0 => failure
  | fuel + 1 => do
    match source with
    | .sequence items =>
      items.foldlM (fun t n => mergeOne fuel textual s n t) t
    | n => mergeOne fuel textual s n t

/-- A table with the pairs that a mapping or a reference to one brings in. -/
def mergeOne (fuel : Nat) (textual : Bool) (s : Scope) (source : Node) (t : Table) :
    Decode Table :=
  match fuel with
  | 0 => failure
  | fuel + 1 => do
    step s
    match source with
    | .mapping pairs => table fuel textual s pairs t
    | .reference serial _ target =>
      let (s, n) ← follow s serial target
      step s
      table fuel textual s (← ofOption n.pairs?) t
    | _ => failure

end

end Decode

end AssetMinifier.Yaml
