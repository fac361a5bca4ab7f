import AssetMinifier.Build.Basic

/-!
# Watching

While the directories of a site are watched, every event on a source starts a
timer anew; when the timer has run out, the site is built again.  The state of
watching changes by small steps, between which others may change the file
system.
-/

namespace AssetMinifier

/-- How far a build has come. -/
inductive Phase where
  | idle
  /-- The sources are about to be listed. -/
  | listing
  /-- The given sources are still to be minified. -/
  | minifying (sources : List Text)
  deriving DecidableEq, Repr

/-- The state of watching. -/
structure Watch where
  builder : Builder
  fileSystem : FileSystem
  /-- The watched directories. -/
  watched : List Location
  /-- The paths of the events that were not taken yet. -/
  queue : List Text := []
  /-- Whether the timer is running. -/
  running : Bool := false
  /-- Whether the timer ran out and nobody has noticed. -/
  ticked : Bool := false
  phase : Phase := .idle
  /-- The error of the last build. -/
  error : Option BuildError := none
  /-- Everything printed so far. -/
  output : Text := []

namespace Watch

/-- How long the timer runs, in milliseconds. -/
def delay : Nat := 100

/-- Print something. -/
def print (w : Watch) (t : Text) : Watch :=
  { w with output := w.output ++ t }

/-- The line that tells about a change. -/
def changeLine (path : Text) : Text :=
  Message.info .plain "Change detected: %s" [Path.base path]

/-- The lines after a build. -/
def closingLines : Text :=
  Message.newline ++ Message.info .plain "Watching for changes..." []

/-- The line that tells about a failed build. -/
def failureLine (e : BuildError) : Text :=
  Message.error .plain "Minification failed: %v" [e.message]

/-- Take the next event from the queue.  If it is about a source, the timer
starts anew; a tick that nobody has noticed stays. -/
def takeEvent (w : Watch) : Watch :=
  match w.queue with
  | [] => w
  | path :: queue =>
    let w := { w with queue }
    if Asset.isSource path then
      { w.print (w.builder.report (changeLine path)) with running := true }
    else w

/-- The timer runs out. -/
def expire (w : Watch) : Watch :=
  if w.running then { w with running := false, ticked := true } else w

/-- Notice that the timer ran out, and start a build. -/
def takeTick (w : Watch) : Watch :=
  if w.ticked then { w.print Message.newline with ticked := false, phase := .listing } else w

/-- End a build. -/
def finish (w : Watch) (error : Option BuildError) : Watch :=
  let w := w.print ((error.map failureLine).getD [] ++ closingLines)
  { w with phase := .idle, error }

/-- Do one step of a build: list the sources, minify the next one, or end. -/
def advance (w : Watch) : Watch :=
  match w.phase with
  | .idle => w
  | .listing =>
    let sources := w.builder.discover w.fileSystem
    { w.print (w.builder.report (w.builder.opening sources)) with
      phase := .minifying sources }
  | .minifying [] => w.finish none
  | .minifying (source :: sources) =>
    let attempt := w.builder.minifyFile w.fileSystem source
    let w :=
      { w.print (w.builder.report (Builder.announcement source)) with
        fileSystem := attempt.fileSystem }
    match attempt.error with
    | some e => w.finish (some e)
    | none =>
      { w.print (w.builder.report (Builder.resultLine attempt.result)) with
        phase := .minifying sources }

/-- Do at most the given number of steps of a build. -/
def advanceMany : Nat → Watch → Watch
  | 0, w => w
  | n + 1, w =>
    match w.phase with
    | .idle => w
    | _ => advanceMany n w.advance

/-- Build the site from start to end. -/
def rebuild (w : Watch) : Watch :=
  advanceMany ((w.builder.discover w.fileSystem).length + 2) { w with phase := .listing }

end Watch

end AssetMinifier
