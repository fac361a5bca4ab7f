import AssetMinifier.Config.Value
import AssetMinifier.Flags.Record
import AssetMinifier.Text.Quoted
import AssetMinifier.Text.Truth

/-!
# Flags

The flags of the command line, and what was given for them.
-/

namespace AssetMinifier

/-- A flag of the command line. -/
inductive Flag where
  | config
  | cssDir
  | dryRun
  | engine
  | exclude
  | help
  | jsDir
  | quiet
  deriving DecidableEq, Repr

namespace Flag

/-- The name of a flag. -/
def name : Flag → Text
  | config => "config"
  | cssDir => "css-dir"
  | dryRun => "dry-run"
  | engine => "engine"
  | exclude => "exclude"
  | help => "help"
  | jsDir => "js-dir"
  | quiet => "quiet"

/-- The letter of a flag, if it has one. -/
def letter? : Flag → Option UInt8
  | config => some 0x63
  | engine => some 0x65
  | help => some 0x68
  | quiet => some 0x71
  | _ => none

/-- Whether a flag can do without a value. -/
def isSwitch : Flag → Bool
  | dryRun | help | quiet => true
  | _ => false

/-- The flags that hold settings, by name. -/
def settings : List Flag :=
  [config, cssDir, dryRun, engine, exclude, jsDir, quiet]

/-- All flags, by name. -/
def all : List Flag :=
  [config, cssDir, dryRun, engine, exclude, help, jsDir, quiet]

/-- The flag with a name. -/
def ofName? (known : List Flag) (name : Text) : Option Flag :=
  known.find? fun f => f.name = name

/-- The flag with a letter. -/
def ofLetter? (known : List Flag) (letter : UInt8) : Option Flag :=
  known.find? fun f => f.letter? = some letter

/-- A flag as it is named in errors. -/
def title (f : Flag) : Text :=
  match f.letter? with
  | some letter => "-" ++ [letter] ++ ", --" ++ f.name
  | none => "--" ++ f.name

end Flag

/-- What was given for the flags.  A flag that was not given has no value. -/
structure Flags where
  config : Option Text := none
  cssDir : Option Text := none
  dryRun : Option Bool := none
  engine : Option Text := none
  exclude : Option (List Text) := none
  help : Option Bool := none
  jsDir : Option Text := none
  quiet : Option Bool := none
  deriving DecidableEq, Repr

/-- Why a flag cannot have a value. -/
inductive FlagFault where
  | noTruthValue (value : Text)
  | noRecord (cause : RecordError)
  deriving DecidableEq, Repr

/-- The text of a flag's fault. -/
def FlagFault.message : FlagFault → Text
  | noTruthValue value => "strconv.ParseBool: parsing " ++ value.quote ++ ": invalid syntax"
  | noRecord cause => cause.message

namespace Flags

/-- The truth value that is given for a switch. -/
def truth (value : Text) : Except FlagFault Bool :=
  match value.truth? with
  | some b => .ok b
  | none => .error (.noTruthValue value)

/-- Give a value for a flag.  The last value counts, but lists grow. -/
def set (fs : Flags) (f : Flag) (value : Text) : Except FlagFault Flags :=
  match f with
  | .config => .ok { fs with config := some value }
  | .cssDir => .ok { fs with cssDir := some value }
  | .engine => .ok { fs with engine := some value }
  | .jsDir => .ok { fs with jsDir := some value }
  | .dryRun => (truth value).map fun b => { fs with dryRun := some b }
  | .help => (truth value).map fun b => { fs with help := some b }
  | .quiet => (truth value).map fun b => { fs with quiet := some b }
  | .exclude =>
    match Record.list value with
    | .ok items => .ok { fs with exclude := some (fs.exclude.getD [] ++ items) }
    | .error cause => .error (.noRecord cause)

/-- The settings that were given.  The items of a list are taken from the
record that holds them all, in which the line ends are unified again. -/
def layer (fs : Flags) : Layer :=
  let given := fun (key : Text) (v : Option Value) => (v.map fun v => (key, v)).toList
  given "css_dir" (fs.cssDir.map .text) ++
    given "js_dir" (fs.jsDir.map .text) ++
    given "engine" (fs.engine.map .text) ++
    given "exclude" (fs.exclude.map fun items =>
      .list (items.map fun t => .text (Text.replace "\r\n" "\n" t))) ++
    given "quiet" (fs.quiet.map .bool) ++
    given "dry_run" (fs.dryRun.map .bool)

end Flags

end AssetMinifier
