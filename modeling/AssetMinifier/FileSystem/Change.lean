import AssetMinifier.FileSystem.Access

/-!
# Changes

What others may do to a file system.
-/

namespace AssetMinifier

/-- A change of a file system from outside. -/
inductive Change where
  /-- Create or replace a file, with its parents. -/
  | write (path data : Text)
  /-- Create a directory, with its parents. -/
  | makeDirectory (path : Text)
  /-- Create a symbolic link, with its parents. -/
  | link (path target : Text)
  /-- Remove whatever is at a path. -/
  | remove (path : Text)
  | rename (path target : Text)
  deriving DecidableEq, Repr

namespace Change

/-- Apply a change. -/
def apply (fs : FileSystem) : Change → Except FileError FileSystem
  | write path data => fs.place path data
  | makeDirectory path => fs.makeDirectories path
  | link path target => fs.symlink path target
  | remove path => .ok (fs.remove path)
  | rename path target => fs.rename path target

/-- Apply a change that others see at once: a file that is written takes the
place of what was there. -/
def applyAtOnce (fs : FileSystem) : Change → Except FileError FileSystem
  | write path data => fs.replaceFile path data
  | change => change.apply fs

/-- The path at which something is put, even if something was there before. -/
def replaced? : Change → Option Text
  | write path _ => some path
  | rename _ target => some target
  | _ => none

/-- The locations at which a change, made between two states, put something
new. -/
def created (change : Change) (before after : FileSystem) : List Location :=
  let fresh := (after.entries.map Prod.fst).filter fun l => (before.node? l).isNone
  let replaced :=
    match change.replaced?.map (before.resolve .name) with
    | some (.ok l) => if (before.node? l).isSome then [l] else []
    | _ => []
  fresh ++ replaced

end Change

end AssetMinifier
