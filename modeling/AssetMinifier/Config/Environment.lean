import AssetMinifier.Config.Value
import AssetMinifier.Text.Lower

/-!
# Settings from the environment

A variable whose name starts with the program's own letters gives the setting
that the rest of its name spells in lower case.  A dot in the name leads into a
table.
-/

namespace AssetMinifier

/-- The variables of an environment, by name. -/
abbrev Environment := List (Text × Text)

namespace Environment

/-- How the name of a variable with a setting starts. -/
def lead : Text := "SHRINK_"

/-- The byte in a name that leads into a table. -/
def separator : UInt8 := 0x2E

/-- The setting that a variable gives, if it gives one. -/
def key? (name : Text) : Option Text :=
  match Text.dropLead? lead name with
  | some [] => none
  | some rest => some rest.lower
  | none => none

/-- Put a value at the end of a path of keys.  A key that holds no table is
passed over. -/
def putAt : List Text → Value → Layer → Layer
  | [], _, layer => layer
  | [key], v, layer => Layer.put key v layer
  | key :: keys, v, layer =>
    match layer.lookup key with
    | none => Layer.put key (.map (putAt keys v [])) layer
    | some (.map inner) => Layer.put key (.map (putAt keys v inner)) layer
    | some _ => putAt keys v layer

/-- The settings that an environment gives. -/
def layer (env : Environment) : Layer :=
  env.foldl (fun layer (name, value) =>
    match key? name with
    | some key => putAt (Text.splitOn separator key) (.text value) layer
    | none => layer) []

end Environment

end AssetMinifier
