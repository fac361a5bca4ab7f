import AssetMinifier.Config.Basic
import AssetMinifier.Config.Value
import AssetMinifier.Text.Truth

/-!
# Decoding settings

A value is decoded for the setting that it belongs to.  Decoding is weak:
scalars of one type pass for scalars of another where that makes sense, and a
single value passes for a list.
-/

namespace AssetMinifier

/-- Why a value cannot be decoded. -/
inductive DecodeFault where
  /-- The value has a type that cannot stand for the wanted one. -/
  | unconvertible (wanted found : Text)
  /-- The text spells no truth value. -/
  | noTruthValue
  deriving DecidableEq, Repr

/-- A fault and the name of what holds the value. -/
structure DecodeError where
  key : Text
  fault : DecodeFault
  deriving DecidableEq, Repr

/-- The text of a decoding error. -/
def DecodeError.message (e : DecodeError) : Text :=
  match e.fault with
  | .unconvertible wanted found =>
    "'" ++ e.key ++ "' expected type '" ++ wanted ++ "', got unconvertible type '" ++ found ++ "'"
  | .noTruthValue =>
    "'" ++ e.key ++ "' cannot parse value as 'bool': strconv.ParseBool: invalid syntax"

namespace Value

/-- The name of a value's type in errors, as far as it can occur there. -/
def typeName : Value → Text
  | list _ => "[]interface \x7b\x7d"
  | map _ => "map[string]interface \x7b\x7d"
  | _ => "time.Time"

/-- The text that a value passes for. -/
def toText : Value → Except DecodeFault Text
  | null => .ok []
  | bool b => .ok (if b then "1" else "0")
  | int n => .ok (Text.ofInt n)
  | float x => .ok (Shortest.render x)
  | text t => .ok t
  | v => .error (.unconvertible "string" v.typeName)

/-- The truth value that a value passes for. -/
def toBool : Value → Except DecodeFault Bool
  | null => .ok false
  | bool b => .ok b
  | int n => .ok (n ≠ 0)
  | float x => .ok (x != 0)
  | text t =>
    if t.isEmpty then .ok false
    else
      match t.truth? with
      | some b => .ok b
      | none => .error .noTruthValue
  | v => .error (.unconvertible "bool" v.typeName)

/-- The values that a value passes for as a list. -/
def items : Value → List Value
  | null => []
  | list vs => vs
  | map [] => []
  | v => [v]

end Value

namespace Decode

/-- The outcome of decoding: a value, or all errors in order. -/
abbrev Outcome (α : Type) := Except (List DecodeError) α

/-- Name the holder of a value in its fault. -/
def atKey {α : Type} (key : Text) : Except DecodeFault α → Outcome α
  | .ok a => .ok a
  | .error fault => .error [⟨key, fault⟩]

/-- Decode a text. -/
def text (key : Text) (v : Value) : Outcome Text :=
  atKey key v.toText

/-- Decode a truth value. -/
def bool (key : Text) (v : Value) : Outcome Bool :=
  atKey key v.toBool

/-- The name of an element of a list. -/
def elementKey (key : Text) (i : Nat) : Text :=
  key ++ "[" ++ Text.ofNat i ++ "]"

/-- Two outcomes together, with the errors of both. -/
def both {α β γ : Type} (f : α → β → γ) : Outcome α → Outcome β → Outcome γ
  | .ok a, .ok b => .ok (f a b)
  | .error e, .ok _ => .error e
  | .ok _, .error e => .error e
  | .error d, .error e => .error (d ++ e)

/-- Decode the elements of a list from a number on. -/
def elements (key : Text) : Nat → List Value → Outcome (List Text)
  | _, [] => .ok []
  | i, v :: vs => both List.cons (text (elementKey key i) v) (elements key (i + 1) vs)

/-- Decode a list of texts. -/
def texts (key : Text) (v : Value) : Outcome (List Text) :=
  elements key 0 v.items

/-- The key under which the site's root and the file of the settings are
looked for.  What is found there is not used, but it has to be a text. -/
def unnamed : Text := "-"

/-- The value of a setting in a layer. -/
def raw (layer : Layer) (key : Text) : Value :=
  (layer.lookup key).getD .null

/-- The settings of a layer, for a site and the file of the settings. -/
def config (root file : Text) (layer : Layer) : Outcome Config :=
  both (fun _ c => c) (text unnamed (raw layer unnamed))
    (both (fun c _ => c)
      (both (fun cssDir (c : Config) => { c with cssDir }) (text "css_dir" (raw layer "css_dir"))
        (both (fun jsDir (c : Config) => { c with jsDir }) (text "js_dir" (raw layer "js_dir"))
          (both (fun engine (c : Config) => { c with engine })
            (text "engine" (raw layer "engine"))
            (both (fun exclude (c : Config) => { c with exclude := Config.splitList exclude })
              (texts "exclude" (raw layer "exclude"))
              (both (fun quiet dryRun =>
                  { Config.defaults root with quiet, dryRun, file })
                (bool "quiet" (raw layer "quiet"))
                (bool "dry_run" (raw layer "dry_run")))))))
      (text unnamed (raw layer unnamed)))

end Decode

end AssetMinifier
