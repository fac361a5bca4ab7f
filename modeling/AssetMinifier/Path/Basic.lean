import AssetMinifier.Text.Basic

/-!
# Paths

Paths are texts whose segments are divided by slashes.  All functions here
look at the text alone; what a path leads to is the business of
`AssetMinifier.FileSystem`.
-/

namespace AssetMinifier.Path

/-- The byte between two segments. -/
def separator : UInt8 := 0x2F

/-- The byte that starts an extension. -/
def dot : UInt8 := 0x2E

/-- The segment that stands for the directory itself. -/
def here : Text := [dot]

/-- The segment that stands for the parent directory. -/
def parent : Text := [dot, dot]

/-- A segment that names something in a directory. -/
def IsProper (name : Text) : Prop :=
  name ≠ [] ∧ name ≠ here ∧ name ≠ parent

instance : DecidablePred IsProper := fun name =>
  inferInstanceAs (Decidable (name ≠ [] ∧ name ≠ here ∧ name ≠ parent))

/-- What something in a directory can be called. -/
def IsName (name : Text) : Prop :=
  IsProper name ∧ separator ∉ name

instance : DecidablePred IsName := fun name =>
  inferInstanceAs (Decidable (IsProper name ∧ separator ∉ name))

/-- Whether a path starts at the root of the file system. -/
def isAbsolute (p : Text) : Bool :=
  p.head? = some separator

/-- What follows the last slash, in reverse. -/
def reversedName (p : Text) : Text :=
  p.reverse.takeWhile (· ≠ separator)

/-- The extension of the last segment: from its last dot on, or nothing if it
has no dot. -/
def extension (p : Text) : Text :=
  let name := reversedName p
  if dot ∈ name then dot :: (name.takeWhile (· ≠ dot)).reverse else []

/-- A path without its extension. -/
def stem (p : Text) : Text :=
  p.take (p.length - (extension p).length)

/-- The last segment of a path, not counting slashes at its end. -/
def base (p : Text) : Text :=
  if p.isEmpty then here
  else
    let name := reversedName (p.reverse.dropWhile (· = separator)).reverse
    if name.isEmpty then [separator] else name.reverse

/-- Take one more segment into a list of cleaned segments, kept in reverse. -/
def cleanSegment (absolute : Bool) (done : List Text) (segment : Text) :
    List Text :=
  if segment.isEmpty || segment = here then done
  else if segment = parent then
    match done with
    | [] => if absolute then [] else [parent]
    | last :: before =>
      if last = parent then parent :: last :: before else before
  else segment :: done

/-- The segments of a path without empty ones, without `.`, and with each `..`
taken back together with the segment before it as far as possible. -/
def cleanSegments (p : Text) : List Text :=
  ((Text.splitOn separator p).foldl (cleanSegment (isAbsolute p)) []).reverse

/-- The path with given segments. -/
def ofSegments (absolute : Bool) (segments : List Text) : Text :=
  if absolute then separator :: Text.join [separator] segments
  else if segments.isEmpty then here
  else Text.join [separator] segments

/-- The shortest path that means the same, as far as the text shows. -/
def clean (p : Text) : Text :=
  ofSegments (isAbsolute p) (cleanSegments p)

/-- Put two paths together.  An empty path adds nothing. -/
def join (p q : Text) : Text :=
  if p.isEmpty && q.isEmpty then []
  else if p.isEmpty then clean q
  else clean (p ++ separator :: q)

/-- The absolute form of a path, read from the directory `cwd`. -/
def absolute (cwd p : Text) : Text :=
  if isAbsolute p then clean p else join cwd p

/-- What is left of two lists of segments behind their common front. -/
def dropCommon : List Text → List Text → List Text × List Text
  | b :: bs, t :: ts => if b = t then dropCommon bs ts else (b :: bs, t :: ts)
  | bs, ts => (bs, ts)

/-- The path that leads from `start` to `goal`, if the texts determine it. -/
def relative? (start goal : Text) : Option Text :=
  if isAbsolute start = isAbsolute goal then
    match dropCommon (cleanSegments start) (cleanSegments goal) with
    | ([], []) => some here
    | (bs, ts) =>
      if bs.head? = some parent && !ts.isEmpty then none
      else some (Text.join [separator] (bs.map (fun _ => parent) ++ ts))
  else none

end AssetMinifier.Path
