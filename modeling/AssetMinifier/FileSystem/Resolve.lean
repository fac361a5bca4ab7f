import AssetMinifier.FileSystem.Basic

/-!
# Resolving paths

A path is followed segment by segment.  At a symbolic link the walk goes on
along the link's target, at most forty times.  The last segment may name
nothing yet: that is a place where something can be created.
-/

namespace AssetMinifier

/-- Why a path leads nowhere or cannot be used. -/
inductive PathFault where
  | missing
  | isDirectory
  | notDirectory
  | invalid
  | tooManyLinks
  | nameTooLong
  | exists
  | denied
  | noSpace
  | inputOutput
  deriving DecidableEq, Repr

namespace PathFault

/-- The text of a fault. -/
def message : PathFault → Text
  | missing => "no such file or directory"
  | isDirectory => "is a directory"
  | notDirectory => "not a directory"
  | invalid => "invalid argument"
  | tooManyLinks => "too many levels of symbolic links"
  | nameTooLong => "file name too long"
  | .exists => "file exists"
  | denied => "permission denied"
  | noSpace => "no space left on device"
  | inputOutput => "input/output error"

end PathFault

/-- What is looked for at the end of a path. -/
inductive Goal where
  /-- The name itself, even if it is that of a link. -/
  | name
  /-- What the name leads to. -/
  | target
  /-- What the name leads to, or a new file.  No slash may follow the name. -/
  | file
  deriving DecidableEq, Repr

namespace FileSystem

/-- The greatest number of bytes of a name. -/
def maxNameLength : Nat :=
  255

/-- The greatest number of bytes of a path. -/
def maxPathLength : Nat :=
  4095

/-- How a walk along segments ends. -/
inductive Walk where
  /-- At a location, which may hold nothing if its last name is new. -/
  | arrived (l : Location)
  /-- At a link in a directory, with segments left behind it. -/
  | atLink (dir : Location) (target : Text) (rest : List Text)
  | failed (fault : PathFault)

/-- Walk along segments from a directory up to the first link.  A link at the
end is reported unless its name is the goal. -/
def walk (fs : FileSystem) (goal : Goal) : Location → List Text → Walk
  | dir, [] => .arrived dir
  | dir, segment :: rest =>
    if segment.isEmpty || segment = Path.here then walk fs goal dir rest
    else if segment = Path.parent then walk fs goal dir.dropLast rest
    else if goal = .file && !rest.isEmpty && rest.all List.isEmpty then .failed .isDirectory
    else if maxNameLength < segment.length then .failed .nameTooLong
    else
      let l := dir ++ [segment]
      match fs.node? l with
      | some .directory => walk fs goal l rest
      | some (.file _) => if rest.isEmpty then .arrived l else .failed .notDirectory
      | some (.link target) =>
        if rest.isEmpty && goal = .name then .arrived l else .atLink dir target rest
      | none => if rest.isEmpty then .arrived l else .failed .missing

/-- The directory from which a path is read, if it is read in `dir`. -/
def startOf (dir : Location) (path : Text) : Location :=
  if Path.isAbsolute path then [] else dir

/-- Walk along segments through at most the given number of links. -/
def walkThrough (fs : FileSystem) (goal : Goal) :
    Nat → Location → List Text → Except PathFault Location
  | links, dir, segments =>
    match walk fs goal dir segments with
    | .arrived l => .ok l
    | .failed fault => .error fault
    | .atLink dir target rest =>
      match links with
      | 0 => .error .tooManyLinks
      | links + 1 =>
        if target.isEmpty then .error .missing
        else
          walkThrough fs goal links (startOf dir target)
            (Text.splitOn Path.separator target ++ rest)

/-- The number of links that a walk may follow. -/
def linkLimit : Nat := 40

/-- The location that a path leads to.  No path holds a zero byte, and the
empty path leads nowhere. -/
def resolve (fs : FileSystem) (goal : Goal) (path : Text) :
    Except PathFault Location :=
  if 0 ∈ path then .error .invalid
  else if path.isEmpty then .error .missing
  else if maxPathLength < path.length then .error .nameTooLong
  else
    walkThrough fs goal linkLimit []
      (startOf fs.workingDirectory path ++ Text.splitOn Path.separator path)

/-- The location and the node that a path leads to. -/
def find (fs : FileSystem) (path : Text) : Except PathFault (Location × Node) := do
  let l ← fs.resolve .target path
  match fs.node? l with
  | some n => return (l, n)
  | none => throw .missing

/-- Whether a path leads to something. -/
def pathExists (fs : FileSystem) (path : Text) : Bool :=
  (fs.find path).isOk

/-- Whether a path leads to a directory. -/
def isDirectory (fs : FileSystem) (path : Text) : Bool :=
  match fs.find path with
  | .ok (_, n) => n.isDirectory
  | .error _ => false

end FileSystem

end AssetMinifier
