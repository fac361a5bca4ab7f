import AssetMinifier.Build.Summary
import AssetMinifier.Config.Basic
import AssetMinifier.Console.Message
import AssetMinifier.Engine.Basic
import AssetMinifier.FileSystem.Access
import AssetMinifier.Path.Asset
import AssetMinifier.Path.Exclude

/-!
# Builds

A build minifies the stylesheets and scripts of a site in turn, and writes each
minified copy beside its source.  It stops at the first file that cannot be
read, minified or written; what was done until then stays, also the part of a
copy there was room for.

Directories can always be listed here, so the sources are found without fail and
every build has a summary.
-/

namespace AssetMinifier

/-- Why a file could not be minified. -/
inductive BuildError where
  | unreadable (source : Text) (cause : FileError)
  | rejected (source : Text) (cause : EngineError)
  | unwritable (target : Text) (cause : FileError)
  deriving DecidableEq, Repr

/-- The text of a build's error. -/
def BuildError.message : BuildError → Text
  | unreadable source cause => "failed to read " ++ source ++ ": " ++ cause.message
  | rejected source cause => "failed to minify " ++ source ++ ": " ++ cause.message
  | unwritable target cause => "failed to write " ++ target ++ ": " ++ cause.message

/-- What is needed to build a site. -/
structure Builder where
  config : Config
  engine : Engine
  /-- Whether nothing but errors is printed. -/
  quiet : Bool

namespace Builder

/-- The builder for a configuration and an engine. -/
def ofConfig (config : Config) (engine : Engine) : Builder where
  config := config
  engine := engine
  quiet := config.quiet

/-- Whether a name in a directory belongs to a source of a kind. -/
def isCandidate (kind : Kind) (name : Text) : Bool :=
  Path.extension name = kind.extension && !Asset.isMinified name

/-- The path by which exclude patterns know a file: from the root, if the
texts allow it. -/
def relativePath (b : Builder) (path : Text) : Text :=
  (Path.relative? b.config.root path).getD path

/-- Whether the path of a candidate belongs to the build. -/
def isIncluded (b : Builder) (fs : FileSystem) (path : Text) : Bool :=
  fs.pathExists path && !fs.isDirectory path &&
    !Exclude.isExcluded (b.relativePath path) b.config.exclude

/-- The sources of a kind in a directory, in the order of their names.  A
directory that is missing has none. -/
def discoverIn (b : Builder) (fs : FileSystem) (dir : Text) (kind : Kind) :
    List Text :=
  (((fs.list dir).filter (isCandidate kind)).map (Path.join dir)).filter
    (b.isIncluded fs)

/-- The sources of a site: the stylesheets, then the scripts. -/
def discover (b : Builder) (fs : FileSystem) : List Text :=
  b.discoverIn fs (b.config.resolveDir b.config.cssDir) .css ++
    b.discoverIn fs (b.config.resolveDir b.config.jsDir) .js

/-- What came of minifying one file. -/
structure Attempt where
  fileSystem : FileSystem
  result : Result
  error : Option BuildError

/-- Minify one file and write its copy, unless nothing is to be written. -/
def minifyFile (b : Builder) (fs : FileSystem) (source : Text) : Attempt :=
  let kind := Kind.ofPath source
  let target := Asset.target source
  let result : Result := { source, target, kind }
  match fs.read source with
  | .error cause => ⟨fs, result, some (.unreadable source cause)⟩
  | .ok content =>
    match b.engine.minify kind content with
    | .error cause => ⟨fs, result, some (.rejected source cause)⟩
    | .ok minified =>
      let result : Result :=
        { source, target, kind
          sourceSize := Int64.ofNat content.length
          minifiedSize := Int64.ofNat minified.length }
      if b.config.dryRun then ⟨fs, result, none⟩
      else
        let writing := fs.write target minified
        ⟨writing.fileSystem, result, writing.error.map (.unwritable target)⟩

/-- What came of a build. -/
structure Outcome where
  fileSystem : FileSystem
  summary : Summary
  output : Text
  error : Option BuildError

/-- Something to print, unless the builder is quiet. -/
def report (b : Builder) (t : Text) : Text :=
  if b.quiet then [] else t

/-- The line before a file is minified. -/
def announcement (source : Text) : Text :=
  Message.info .plain "Minifying %s -> %s"
    [Path.base source, Path.base (Asset.target source)]

/-- The line after a file is minified. -/
def resultLine (r : Result) : Text :=
  Message.savingsLine .plain r.sourceSize r.minifiedSize r.savings

/-- Minify files in turn up to the first error. -/
def minifyAll (b : Builder) : FileSystem → Summary → List Text → Outcome
  | fs, summary, [] => ⟨fs, summary, [], none⟩
  | fs, summary, source :: sources =>
    let attempt := b.minifyFile fs source
    match attempt.error with
    | some e => ⟨attempt.fileSystem, summary, b.report (announcement source), some e⟩
    | none =>
      let later := b.minifyAll attempt.fileSystem (summary.add attempt.result) sources
      { later with
        output :=
          b.report (announcement source ++ resultLine attempt.result) ++ later.output }

/-- The lines before the first file. -/
def opening (b : Builder) (sources : List Text) : Text :=
  Message.keyValue .plain "Root" ("   " ++ b.config.root) ++
    (if b.config.file.isEmpty then []
      else Message.keyValue .plain "Config" (" " ++ b.config.file)) ++
    Message.keyValue .plain "Engine" (" " ++ b.engine.name) ++
    Message.newline ++
    (if sources.isEmpty then
        Message.warning .plain "No CSS or JS files found under %s" [b.config.root]
      else [])

/-- Minify every source of the site. -/
def build (b : Builder) (fs : FileSystem) : Outcome :=
  let sources := b.discover fs
  let outcome := b.minifyAll fs Summary.empty sources
  { outcome with output := b.report (b.opening sources) ++ outcome.output }

end Builder

end AssetMinifier
