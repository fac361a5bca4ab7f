import AssetMinifier.Path.Glob

/-!
# Exclude patterns

A pattern without a slash is also matched against the last segment alone, and
`**` stands for any number of segments.  What precedes `**` is compared
literally; what follows it is a glob for some tail of the remaining path.
-/

namespace AssetMinifier.Exclude

/-- What remains of a name behind a literal leading directory. -/
def below? (dir name : Text) : Option Text :=
  if dir.isEmpty then some name
  else if name = dir || (dir ++ [Path.separator]).isPrefixOf name then
    some (Text.dropLead [Path.separator] (name.drop dir.length))
  else none

/-- Whether a glob matches the segments of some nonempty tail of a list. -/
def matchesTail (glob : Text) : List Text → Bool
  | [] => false
  | segment :: segments =>
    Glob.matchesName glob (Text.join [Path.separator] (segment :: segments)) ||
      matchesTail glob segments

/-- Whether a path matches a pattern. -/
def isMatch (name pattern : Text) : Bool :=
  match Text.cut? "**" pattern with
  | some (before, after) =>
    let glob := Text.dropLead [Path.separator] after
    match below? (Text.dropTail [Path.separator] before) name with
    | none => false
    | some rest =>
      glob.isEmpty || matchesTail glob (Text.splitOn Path.separator rest)
  | none => Glob.matchesName pattern name || Glob.matchesName pattern (Path.base name)

/-- Whether a path matches one of the patterns. -/
def isExcluded (name : Text) (patterns : List Text) : Bool :=
  patterns.any (isMatch name)

end AssetMinifier.Exclude
