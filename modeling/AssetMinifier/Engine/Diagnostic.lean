import AssetMinifier.Text.Basic

/-!
# Diagnostics

What an engine has to say against a source, and the text in which it is told.
-/

namespace AssetMinifier

/-- A place in a source: lines count from one, columns from zero in bytes. -/
structure Position where
  line : Int
  column : Int
  deriving DecidableEq, Repr

/-- A complaint about a source, perhaps with its place. -/
structure Diagnostic where
  position : Option Position
  message : Text
  deriving DecidableEq, Repr

namespace Diagnostic

/-- One complaint as text, with its place in front. -/
def render (d : Diagnostic) : Text :=
  match d.position with
  | some p => Text.ofInt p.line ++ ":" ++ Text.ofInt p.column ++ ": " ++ d.message
  | none => d.message

/-- Complaints as one line of text. -/
def renderAll (ds : List Diagnostic) : Text :=
  Text.join "; " (ds.map render)

end Diagnostic

end AssetMinifier
