import AssetMinifier.Path.Basic
import AssetMinifier.Text.Space

/-!
# Configurations

The settings of one run.
-/

namespace AssetMinifier

/-- The settings of one run. -/
structure Config where
  /-- The directory of the site. -/
  root : Text
  /-- Where the stylesheets are, from the root unless absolute. -/
  cssDir : Text
  /-- Where the scripts are, from the root unless absolute. -/
  jsDir : Text
  /-- The name of the engine. -/
  engine : Text
  /-- Patterns of files to leave out. -/
  exclude : List Text
  /-- Whether only errors are printed. -/
  quiet : Bool
  /-- Whether nothing is written. -/
  dryRun : Bool
  /-- The file that settings came from, or nothing. -/
  file : Text
  deriving DecidableEq, Repr

namespace Config

/-- The settings of a site for which nothing is configured. -/
def defaults (root : Text) : Config where
  root := root
  cssDir := "css"
  jsDir := "js"
  engine := "regex"
  exclude := []
  quiet := false
  dryRun := false
  file := []

/-- A directory of the site, from the root unless it is absolute. -/
def resolveDir (c : Config) (dir : Text) : Text :=
  if Path.isAbsolute dir then dir else Path.join c.root dir

/-- Take the items of comma-separated lists apart, without white space around
them and without empty ones. -/
def splitList (items : List Text) : List Text :=
  items.flatMap fun item =>
    ((Text.splitOn 0x2C item).map Text.trim).filter fun part => !part.isEmpty

end Config

end AssetMinifier
