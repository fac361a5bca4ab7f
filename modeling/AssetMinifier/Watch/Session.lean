import AssetMinifier.FileSystem.Change
import AssetMinifier.Watch.Basic

/-!
# Sessions of watching

Watching starts with a build and ends when it is asked to.  In between, each
change of the file system is an event for every new entry of a watched
directory.
-/

namespace AssetMinifier

/-- Nothing can be watched under a root. -/
structure WatchError where
  root : Text
  deriving DecidableEq, Repr

/-- The text of an error. -/
def WatchError.message (e : WatchError) : Text :=
  "nothing to watch under " ++ e.root

/-- How watching starts. -/
inductive WatchStart where
  /-- It does not, after something was printed. -/
  | refused (output : Text) (error : WatchError)
  | started (w : Watch)

namespace Watch

/-- The directories that are to be watched. -/
def wanted (config : Config) : List Text :=
  [config.cssDir, config.jsDir].map config.resolveDir

/-- The line that tells about a directory that cannot be watched. -/
def skippedLine (path : Text) : Text :=
  Message.warning .plain "Skipping %s: not a directory" [path]

/-- The location of a directory. -/
def directory? (fs : FileSystem) (path : Text) : Option Location :=
  match fs.find path with
  | .ok (l, .directory) => some l
  | _ => none

/-- The line that tells how to stop. -/
def stopHint : Text :=
  Message.info .plain "Press Ctrl+C to stop" []

/-- Start to watch with a build. -/
def start (b : Builder) (fs : FileSystem) : WatchStart :=
  let dirs := wanted b.config
  let warnings := (dirs.filter fun d => !fs.isDirectory d).flatMap skippedLine
  match dirs.filterMap (directory? fs) with
  | [] => .refused warnings ⟨b.config.root⟩
  | watched =>
    let w : Watch := { builder := b, fileSystem := fs, watched, output := warnings }
    .started (w.rebuild.print stopHint)

/-- Queue an event for every location directly inside a watched directory. -/
def notify (w : Watch) (created : List Location) : Watch :=
  let seen := created.filter fun l => w.watched.any fun dir => l.dropLast = dir
  { w with queue := w.queue ++ seen.map (Path.ofSegments true) }

/-- Others change the file system.  A directory that is gone is no longer
watched. -/
def change (w : Watch) (c : Change) : Watch :=
  match c.applyAtOnce w.fileSystem with
  | .error _ => w
  | .ok fs =>
    let w := w.notify (c.created w.fileSystem fs)
    { w with
      fileSystem := fs
      watched := w.watched.filter fun l => fs.node? l = some .directory }

/-- Take the events in the queue, as many as there are. -/
def takeEvents (w : Watch) : Watch :=
  w.queue.foldl (fun w _ => w.takeEvent) w

/-- Wait until the timer has run out, and build if it did. -/
def settle (w : Watch) : Watch :=
  let w := w.takeEvents.expire.takeTick
  match w.phase with
  | .idle => w
  | _ => w.rebuild

/-- A change, and whether there is time for the timer to run out behind it. -/
structure Scheduled where
  change : Change
  settles : Bool
  deriving DecidableEq, Repr

/-- One scheduled change. -/
def perform (w : Watch) (s : Scheduled) : Watch :=
  let w := (w.change s.change).takeEvents
  if s.settles then w.settle else w

/-- The line that tells about the end. -/
def farewell : Text :=
  Message.newline ++ Message.info .plain "Stopped watching" []

/-- Play scheduled changes and stop. -/
def play (w : Watch) (schedule : List Scheduled) : Watch :=
  (schedule.foldl perform w).print farewell

end Watch

end AssetMinifier
