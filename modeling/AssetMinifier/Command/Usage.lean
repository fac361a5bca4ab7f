import AssetMinifier.Console.Message
import AssetMinifier.Flags.Basic

/-!
# Usage

The commands of the program and how their use is explained.
-/

namespace AssetMinifier

/-- A command of the program. -/
inductive Command where
  | build
  | help
  | version
  | watch
  deriving DecidableEq, Repr

/-- The name of the program. -/
def programName : Text := "shrink"

/-- The version of the program. -/
def programVersion : Text := "dev"

namespace Flag

/-- What kind of value a flag takes. -/
def valueName : Flag → Text
  | dryRun | help | quiet => []
  | exclude => "strings"
  | _ => "string"

/-- What a flag of a command is for. -/
def description (command : Text) : Flag → Text
  | config => "Config file (default: shrink.yaml in the root directory)"
  | cssDir => "Directory with CSS files, relative to the root (default \"css\")"
  | dryRun => "Report savings without writing .min files"
  | engine => "Minification engine: regex, esbuild, or tdewolff (default \"regex\")"
  | exclude => "Glob pattern of files to skip (repeatable)"
  | help => "help for " ++ command
  | jsDir => "Directory with JS files, relative to the root (default \"js\")"
  | quiet => "Only print errors"

/-- A flag with its letter and the kind of its value. -/
def form (f : Flag) : Text :=
  let lead : Text :=
    match f.letter? with
    | some letter => "  -" ++ [letter] ++ ", --"
    | none => "      --"
  let value : Text := if f.valueName.isEmpty then [] else " " ++ f.valueName
  lead ++ f.name ++ value

/-- The lines that describe flags, with the descriptions in one column. -/
def table (command : Text) (flags : List Flag) : Text :=
  let width := (flags.map fun f => f.form.length).foldl max 0
  flags.flatMap fun f =>
    f.form ++ Text.blanks (width - f.form.length + 3) ++ f.description command ++ "\n"

end Flag

namespace Command

/-- The name of a command; the program's own for the one without a name. -/
def name : Command → Text
  | build => programName
  | help => "help"
  | version => "version"
  | watch => "watch"

/-- The command that a word names. -/
def ofWord? (word : Text) : Option Command :=
  [help, version, watch].find? fun c => c.name = word

/-- How a command is written. -/
def form : Command → Text
  | build => programName ++ " [root] [flags]"
  | help => programName ++ " help [command] [flags]"
  | version => programName ++ " version [flags]"
  | watch => programName ++ " watch [root] [flags]"

/-- The commands with a name, and what they do. -/
def overview : Text :=
  "  completion  Generate the autocompletion script for the specified shell\n" ++
    "  help        Help about any command\n" ++
    "  version     Print the version number\n" ++
    "  watch       Watch for changes and minify again\n"

/-- How a command is used. -/
def usage (c : Command) : Text :=
  match c with
  | build =>
    "Usage:\n  " ++ c.form ++ "\n  " ++ programName ++ " [command]\n\nAvailable Commands:\n" ++
      overview ++ "\nFlags:\n" ++ Flag.table c.name Flag.all ++ "\nUse \"" ++ programName ++
      " [command] --help\" for more information about a command.\n"
  | c =>
    "Usage:\n  " ++ c.form ++ "\n\nFlags:\n" ++ Flag.table c.name [.help] ++
      "\nGlobal Flags:\n" ++ Flag.table c.name Flag.settings

/-- What a command does. -/
def summary : Command → Text
  | build =>
    Message.divider .plain ++ "\n" ++ Message.banner .plain ++ "\n\n" ++
      Message.divider .plain ++ "\n\n" ++
      "  Minifies css/*.css and js/*.js under the root directory (default: current directory)\n" ++
      "  and writes name.min.css / name.min.js next to each source file."
  | help =>
    "Help provides help for any command in the application.\nSimply type " ++ programName ++
      " help [path to command] for full details."
  | version => "Print the version number"
  | watch => "Watch for changes and minify again"

/-- The help on a command. -/
def helpText (c : Command) : Text :=
  c.summary ++ "\n\n" ++ c.usage

end Command

end AssetMinifier
