import AssetMinifier.Path.Basic
import AssetMinifier.Text.Lower

/-!
# Kinds of source

A file is a stylesheet, a script or something else, by its extension.
-/

namespace AssetMinifier

/-- What a source is written in. -/
inductive Kind where
  | unknown
  | css
  | js
  /-- A kind outside the list, known only by its number. -/
  | unlisted (code : Int)
  deriving DecidableEq, Repr

namespace Kind

/-- The kind with a given number. -/
def ofCode (code : Int) : Kind :=
  match code with
  | 0 => unknown
  | 1 => css
  | 2 => js
  | code => unlisted code

/-- The name of a kind. -/
def name : Kind → Text
  | css => "css"
  | js => "js"
  | unknown => "unknown"
  | unlisted _ => "unknown"

/-- The extension of the files of a kind, with its dot. -/
def extension : Kind → Text
  | unknown => []
  | kind => Path.dot :: kind.name

/-- The kind of a file by the extension of its path, in any case. -/
def ofPath (path : Text) : Kind :=
  let ext := (Path.extension path).lower
  if ext = css.extension then css
  else if ext = js.extension then js
  else unknown

end Kind

end AssetMinifier
