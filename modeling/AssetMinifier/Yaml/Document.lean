import AssetMinifier.Yaml.Decode

/-!
# Documents

The table of values that a document holds.
-/

namespace AssetMinifier.Yaml

/-- Why a document holds no table. -/
inductive DocumentError where
  | malformed
  /-- The root, on the given line, is something else. -/
  | otherRoot (line : Nat) (found : Text)
  deriving DecidableEq, Repr

/-- The text of a document's error. -/
def DocumentError.message : DocumentError → Text
  | malformed => "yaml: the document is malformed"
  | otherRoot line found =>
    "yaml: unmarshal errors:\n  line " ++ Text.ofNat line ++ ": cannot unmarshal " ++ found ++
      " into map[string]interface \x7b\x7d"

/-- How a scalar is named in an error: by its tag and the start of its text. -/
def describe (tag : Option Text) (text : String) (v : Value) : Text :=
  let shown : Text := text
  let shown := if 10 < shown.length then shown.take 7 ++ "..." else shown
  tag.getD (tagOf v) ++ " \x60" ++ shown ++ "\x60"

namespace Content

/-- The table of a document's content.  The document and its root take a step
each. -/
def table (c : Content) : Except DocumentError Layer :=
  match c.root with
  | .mapping pairs =>
    let fuel := 4 * c.size * (c.references + 2)
    match (Decode.table fuel true { named := c.named } pairs {}).run { steps := 2 } with
    | some (t, _) => .ok t.layer
    | none => .error .malformed
  | .scalar tag plain text =>
    match resolve? tag plain text with
    | none => .error .malformed
    | some .null => .ok []
    | some v => .error (.otherRoot (c.line + 1) (describe tag text v))
  | _ => .error (.otherRoot (c.line + 1) "!!seq")

end Content

/-- The table of a document.  A document without content holds an empty
one. -/
def table (t : Text) : Except DocumentError Layer :=
  match content? (Source.ofText t) with
  | none => .error .malformed
  | some none => .ok []
  | some (some content) => content.table

end AssetMinifier.Yaml
