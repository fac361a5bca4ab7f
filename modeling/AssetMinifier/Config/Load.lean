import AssetMinifier.Config.Decode
import AssetMinifier.Config.Environment
import AssetMinifier.FileSystem.Access
import AssetMinifier.Flags.Basic
import AssetMinifier.Yaml.Document

/-!
# Loading settings

Settings come in layers: the defaults, a file, the environment and the flags
that were given, each laid over the ones before.
-/

namespace AssetMinifier

/-- Why there are no settings. -/
inductive LoadError where
  | unreadable (file : Text) (cause : FileError)
  | malformed (file : Text) (cause : Yaml.DocumentError)
  | undecodable (errors : List DecodeError)
  deriving DecidableEq, Repr

/-- The text of an error. -/
def LoadError.message : LoadError → Text
  | unreadable file cause => "error reading config file " ++ file ++ ": " ++ cause.message
  | malformed file cause => "error reading config file " ++ file ++ ": " ++ cause.message
  | undecodable errors =>
    "unable to decode config: decoding failed due to the following error(s):\n\n" ++
      Text.join "\n" (errors.map DecodeError.message)

namespace Config

/-- The settings of a site for which nothing is configured, as a layer. -/
def defaultLayer : Layer :=
  [("css_dir", .text "css"), ("js_dir", .text "js"), ("engine", .text "regex"),
    ("exclude", .list []), ("quiet", .bool false), ("dry_run", .bool false)]

/-- The names of the files that are looked for in the root of a site. -/
def fileNames : List Text :=
  ["shrink.yaml", "shrink.yml"]

/-- The file of the settings in the root of a site, or nothing. -/
def findFile (fs : FileSystem) (root : Text) : Text :=
  ((fileNames.map (Path.join root)).find? fs.pathExists).getD []

/-- The settings in a file; no file has none. -/
def fileLayer (fs : FileSystem) (file : Text) : Except LoadError Layer :=
  if file.isEmpty then .ok []
  else
    match fs.read (Path.clean file) with
    | .error cause => .error (.unreadable file cause)
    | .ok data =>
      match Yaml.table data with
      | .error cause => .error (.malformed file cause)
      | .ok layer => .ok layer

/-- The settings in all layers together. -/
def combine (file : Layer) (env : Environment) (flags : Option Flags) : Layer :=
  Layer.merge ((flags.map Flags.layer).getD [])
    (Layer.merge env.layer (Layer.merge file defaultLayer))

/-- Load the settings of a site from the given file or, if none is given, from
the one in its root. -/
def load (fs : FileSystem) (env : Environment) (root file : Text) (flags : Option Flags) :
    Except LoadError Config :=
  let file := if file.isEmpty then findFile fs root else file
  match fileLayer fs file with
  | .error e => .error e
  | .ok layer =>
    match Decode.config root file (combine layer env flags) with
    | .error errors => .error (.undecodable errors)
    | .ok config => .ok config

end Config

end AssetMinifier
