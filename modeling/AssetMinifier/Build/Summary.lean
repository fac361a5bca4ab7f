import AssetMinifier.Engine.Kind

/-!
# Results and summaries

What minifying one file, and a whole site, did to the sizes.  Sizes are signed
words of 64 bits.
-/

namespace AssetMinifier

/-- The reduction from one size to another as a percentage of the first.
Nothing is saved on an empty source. -/
def savingsPercent (source minified : Int64) : Float :=
  if source = 0 then 0
  else (source - minified).toFloat / source.toFloat * 100

/-- The outcome for one file.  Sizes are zero until the file is minified. -/
structure Result where
  source : Text
  target : Text
  kind : Kind
  sourceSize : Int64 := 0
  minifiedSize : Int64 := 0
  deriving DecidableEq, Repr

namespace Result

/-- The percentage saved on one file. -/
def savings (r : Result) : Float :=
  savingsPercent r.sourceSize r.minifiedSize

end Result

/-- The totals over several files. -/
structure Summary where
  files : Nat := 0
  sourceSize : Int64 := 0
  minifiedSize : Int64 := 0
  deriving DecidableEq, Repr

namespace Summary

/-- Nothing minified yet. -/
def empty : Summary := {}

/-- The totals with one more file. -/
def add (s : Summary) (r : Result) : Summary where
  files := s.files + 1
  sourceSize := s.sourceSize + r.sourceSize
  minifiedSize := s.minifiedSize + r.minifiedSize

/-- The percentage saved over all files. -/
def savings (s : Summary) : Float :=
  savingsPercent s.sourceSize s.minifiedSize

end Summary

end AssetMinifier
