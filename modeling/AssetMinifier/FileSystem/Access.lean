import AssetMinifier.FileSystem.Resolve

/-!
# Reading and writing

Reading and writing whole files, and the changes that others make to a file
system: directories, links, removals and moves.  A file is written in two steps:
it is opened, which creates or empties it, and then it is filled as far as there
is room.  So a write that fails leaves the file as it was or cuts it short.
-/

namespace AssetMinifier

/-- A failed operation on a path. -/
structure FileError where
  operation : Text
  path : Text
  fault : PathFault
  deriving DecidableEq, Repr

/-- The text of a failed operation. -/
def FileError.message (e : FileError) : Text :=
  e.operation ++ " " ++ e.path ++ ": " ++ e.fault.message

namespace FileSystem

/-- The contents of a file.  A directory can be opened but not read. -/
def read (fs : FileSystem) (path : Text) : Except FileError Text :=
  match fs.find path with
  | .ok (l, .file data) =>
    if fs.isDefective l .unreadable then .error ⟨"open", path, .denied⟩
    else if fs.isDefective l .damaged then .error ⟨"read", path, .inputOutput⟩
    else .ok data
  | .ok (_, .directory) => .error ⟨"read", path, .isDirectory⟩
  | .ok (_, .link _) => .error ⟨"open", path, .tooManyLinks⟩
  | .error fault => .error ⟨"open", path, fault⟩

/-- Where a file stands that is opened to be written, or can be created. -/
def openToWrite (fs : FileSystem) (path : Text) : Except FileError Location :=
  match fs.resolve .file path with
  | .error fault => .error ⟨"open", path, fault⟩
  | .ok l =>
    match fs.node? l with
    | some .directory => .error ⟨"open", path, .isDirectory⟩
    | _ =>
      if fs.isDefective l .unwritable then .error ⟨"open", path, .denied⟩ else .ok l

/-- What came of writing a file. -/
structure Writing where
  fileSystem : FileSystem
  error : Option FileError

/-- Create a file or replace its contents.  What there is no room for is
missing. -/
def write (fs : FileSystem) (path data : Text) : Writing :=
  match fs.openToWrite path with
  | .error e => ⟨fs, some e⟩
  | .ok l =>
    let kept := fs.fitting l data
    ⟨fs.put l (.file kept), if kept = data then none else some ⟨"write", path, .noSpace⟩⟩

/-- The names in the directory that a path leads to, in the order of their
bytes.  There are none if it leads to no directory; every directory can be
listed. -/
def list (fs : FileSystem) (path : Text) : List Text :=
  match fs.find path with
  | .ok (l, .directory) => fs.names l
  | _ => []

/-- Create one directory, unless it is there. -/
def makeDirectory (fs : FileSystem) (path : Text) : Except FileError FileSystem :=
  match fs.resolve .target path with
  | .error fault => .error ⟨"mkdir", path, fault⟩
  | .ok l =>
    match fs.node? l with
    | some .directory => .ok fs
    | some _ => .error ⟨"mkdir", path, .notDirectory⟩
    | none => .ok (fs.put l .directory)

/-- The paths of a path's parents, outermost first, and of itself. -/
def ancestry (path : Text) : List Text :=
  let segments := Path.cleanSegments path
  (List.range segments.length).map fun i =>
    Path.ofSegments (Path.isAbsolute path) (segments.take (i + 1))

/-- Create a directory and its parents. -/
def makeDirectories (fs : FileSystem) (path : Text) : Except FileError FileSystem :=
  (ancestry path).foldlM makeDirectory fs

/-- Create the parents of a path. -/
def makeParents (fs : FileSystem) (path : Text) : Except FileError FileSystem :=
  (ancestry path).dropLast.foldlM makeDirectory fs

/-- Create or replace a file together with its parents. -/
def place (fs : FileSystem) (path data : Text) : Except FileError FileSystem := do
  let writing := (← fs.makeParents path).write path data
  match writing.error with
  | some e => throw e
  | none => return writing.fileSystem

/-- Put a new file at a path together with its parents.  It takes the place of
a file or a link that was there. -/
def replaceFile (fs : FileSystem) (path data : Text) : Except FileError FileSystem := do
  let fs ← fs.makeParents path
  match fs.resolve .name path with
  | .error fault => throw ⟨"open", path, fault⟩
  | .ok l =>
    match fs.node? l with
    | some .directory => throw ⟨"open", path, .isDirectory⟩
    | _ => return fs.put l (.file data)

/-- Create a symbolic link together with its parents. -/
def symlink (fs : FileSystem) (path target : Text) : Except FileError FileSystem := do
  let fs ← fs.makeParents path
  let names := target ++ " " ++ path
  match fs.resolve .name path with
  | .error fault => throw ⟨"symlink", names, fault⟩
  | .ok l =>
    if (fs.node? l).isSome then throw ⟨"symlink", names, .exists⟩
    else return fs.put l (.link target)

/-- Remove whatever is at a path, with everything below it. -/
def remove (fs : FileSystem) (path : Text) : FileSystem :=
  match fs.resolve .name path with
  | .ok l => fs.erase l
  | .error _ => fs

/-- Why a location cannot be moved to another, if it cannot: no directory is
replaced, none takes the place of something else, and none moves into itself. -/
def moveFault? (fs : FileSystem) (source target : Location) : Option PathFault :=
  match fs.node? source, fs.node? target with
  | none, _ => some .missing
  | _, some .directory => some .exists
  | some .directory, some _ => some .notDirectory
  | some .directory, none => if source.isPrefixOf target then some .invalid else none
  | _, _ => none

/-- Rename a path. -/
def rename (fs : FileSystem) (path target : Text) : Except FileError FileSystem :=
  let failed := fun fault => .error ⟨"rename", path ++ " " ++ target, fault⟩
  match fs.resolve .name path, fs.resolve .name target with
  | .ok source, .ok goal =>
    if source = goal && path ≠ target then .ok fs
    else
      match fs.moveFault? source goal with
      | some fault => failed fault
      | none => .ok (fs.move source goal)
  | .error fault, _ => failed fault
  | _, .error fault => failed fault

/-- Everything below a directory in depth-first order, the names of each
directory in the order of their bytes.  Links are not followed; the first
argument bounds the depth. -/
def tree (fs : FileSystem) : Nat → Location → List (Location × Node)
  | 0, _ => []
  | depth + 1, dir =>
    (fs.names dir).flatMap fun name =>
      let l := dir ++ [name]
      match fs.node? l with
      | some .directory => (l, .directory) :: tree fs depth l
      | some n => [(l, n)]
      | none => []

/-- One more than the length of the longest location. -/
def depth (fs : FileSystem) : Nat :=
  (fs.entries.map fun e => e.1.length).foldl max 0 + 1

end FileSystem

end AssetMinifier
