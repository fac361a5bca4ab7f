import AssetMinifier.Command.Run

/-!
# The program

Reads what a run may look at into a file system, runs the command, and writes
back the files that it changed.  While a site is watched, its directories are
read again and again.
-/

namespace AssetMinifier.Shell

/-- A text as a string, for the names of files. -/
def stringOf (t : Text) : String :=
  t.toString?.getD ""

/-- Write a text. -/
def put (out : IO.FS.Stream) (t : Text) : IO Unit := do
  out.write ⟨t.toArray⟩
  out.flush

/-- Take what is at a path, if anything, into the file system. -/
def readPath (fs : FileSystem) (path : Text) : IO FileSystem := do
  let file := (← IO.currentDir) / stringOf path
  if ← file.isDir then return (fs.makeDirectories path).toOption.getD fs
  else if ← file.pathExists then
    let data ← IO.FS.readBinFile file
    return (fs.place path data.toList).toOption.getD fs
  else return fs

/-- Take a directory and what is directly in it into the file system. -/
def readDirectory (fs : FileSystem) (path : Text) : IO FileSystem := do
  let dir := (← IO.currentDir) / stringOf path
  let mut fs ← readPath fs path
  if ← dir.isDir then
    for entry in ← dir.readDir do
      fs ← readPath fs (Path.join path entry.fileName)
  return fs

/-- Write the files that differ between two states. -/
def writeBack (before after : FileSystem) : IO Unit := do
  for (l, n) in after.entries do
    match n with
    | .file data =>
      if before.node? l ≠ some n then
        IO.FS.writeBinFile (stringOf (Path.ofSegments true l)) ⟨data.toArray⟩
    | _ => pure ()

/-- The names, without their start, of the variables that hold settings. -/
def variableNames : List String :=
  ["CSS_DIR", "JS_DIR", "ENGINE", "EXCLUDE", "QUIET", "DRY_RUN"]

/-- The variables that hold settings. -/
def environment : IO Environment := do
  let mut env : Environment := []
  for name in variableNames do
    let full := Environment.lead ++ name
    if let some value ← IO.getEnv (stringOf full) then
      env := env ++ [(full, Text.ofString value)]
  return env

/-- No tools from elsewhere: the engines that need them refuse every source. -/
def noTools : Tools where
  transform _ _ := ⟨[], [⟨none, "not available"⟩]⟩
  shorten _ _ := .error "not available"

/-- Take all that a run may look at into a file system: the files of the
settings first, which tell where the sources are. -/
def prepare (env : Environment) (args : List Text) : IO FileSystem := do
  let cwd : Text := (← IO.currentDir).toString
  let mut fs ← readPath (FileSystem.empty.enter (Path.cleanSegments cwd)) cwd
  if let .ok a := Arguments.read Flag.all (Command.select args).2 then
    let root := Builder.rootOf fs a.positional
    fs ← readPath fs root
    for file in a.flags.config.toList ++ Config.fileNames.map (Path.join root) do
      fs ← readPath fs file
    if let .ok b := Builder.ofArguments noTools fs env a then
      for dir in Watch.wanted b.config do
        fs ← readDirectory fs dir
  return fs

/-- The changes that others made to the files of a directory. -/
def changesIn (fs : FileSystem) (dir : Text) : IO (List Change) := do
  let now ← readDirectory (FileSystem.empty.enter fs.workingDirectory) dir
  return now.entries.filterMap fun (l, n) =>
    match n with
    | .file data =>
      if fs.node? l = some n then none else some (.write (Path.ofSegments true l) data)
    | _ => none

/-- Watch a site until the process is stopped.  The timer runs out at the
deadline. -/
partial def watch (out : IO.FS.Stream) (w : Watch) (deadline : Nat) : IO Unit := do
  IO.sleep 20
  let changes ← (Watch.wanted w.builder.config).mapM (changesIn w.fileSystem)
  let seen := (changes.flatten.foldl Watch.change w).takeEvents
  put out (seen.output.drop w.output.length)
  let now ← IO.monoMsNow
  let deadline := if changes.flatten.isEmpty then deadline else now + Watch.delay
  if seen.running && deadline ≤ now then
    let rebuilt := seen.settle
    writeBack seen.fileSystem rebuilt.fileSystem
    put out (rebuilt.output.drop seen.output.length)
    watch out { rebuilt with output := [] } deadline
  else watch out { seen with output := [] } deadline

/-- Run the program with its arguments. -/
def run (args : List Text) : IO UInt32 := do
  let env ← environment
  let fs ← prepare env args
  let out ← IO.getStdout
  match Command.run noTools fs env args with
  | .ended report =>
    writeBack fs report.fileSystem
    put out report.output
    put (← IO.getStderr) report.errors
    return UInt32.ofNat report.exitCode
  | .watching output w =>
    writeBack fs w.fileSystem
    put out (output ++ w.output)
    watch out { w with output := [] } 0
    return 0

end AssetMinifier.Shell

/-- Run the program with its arguments. -/
def main (args : List String) : IO UInt32 :=
  AssetMinifier.Shell.run (args.map AssetMinifier.Text.ofString)
