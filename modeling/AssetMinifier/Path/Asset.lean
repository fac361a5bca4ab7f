import AssetMinifier.Engine.Kind

/-!
# Sources and targets

The minified copy of `name.ext` is `name.min.ext` beside it.
-/

namespace AssetMinifier.Asset

/-- What a minified name has before its extension. -/
def mark : Text := ".min"

/-- Where the minified copy of a file goes. -/
def target (path : Text) : Text :=
  Path.stem path ++ mark ++ Path.extension path

/-- Whether a path is named like a minified copy. -/
def isMinified (path : Text) : Bool :=
  mark.isSuffixOf (Path.stem (Path.base path))

/-- Whether a path names a stylesheet or script that is no minified copy. -/
def isSource (path : Text) : Bool :=
  Kind.ofPath path ≠ .unknown && !isMinified path

end AssetMinifier.Asset
