import AssetMinifier.Build.Basic
import AssetMinifier.Config.Load
import AssetMinifier.Flags.Parse

/-!
# Setting up a build

The arguments, the environment and the file system together determine what is
built, and with which engine.
-/

namespace AssetMinifier

/-- Why there is nothing to build with. -/
inductive SetupError where
  | notDirectory (root : Text)
  | config (cause : LoadError)
  | engine (cause : EngineError)
  deriving DecidableEq, Repr

/-- The text of an error. -/
def SetupError.message : SetupError → Text
  | notDirectory root => "not a directory: " ++ root
  | config cause => cause.message
  | engine cause => cause.message

namespace Builder

/-- The root of the site: the first positional argument or the working
directory, in absolute form. -/
def rootOf (fs : FileSystem) (positional : List Text) : Text :=
  Path.absolute (Path.ofSegments true fs.workingDirectory) (positional.head?.getD Path.here)

/-- The builder that arguments ask for. -/
def ofArguments (tools : Tools) (fs : FileSystem) (env : Environment)
    (args : Arguments) : Except SetupError Builder :=
  let root := rootOf fs args.positional
  if !fs.isDirectory root then .error (.notDirectory root)
  else
    match Config.load fs env root (args.flags.config.getD []) (some args.flags) with
    | .error cause => .error (.config cause)
    | .ok config =>
      match Engine.ofName tools config.engine with
      | .error cause => .error (.engine cause)
      | .ok engine => .ok (ofConfig config engine)

end Builder

end AssetMinifier
