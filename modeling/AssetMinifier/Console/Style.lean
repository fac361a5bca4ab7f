import AssetMinifier.Text.CellWidth

/-!
# Styles

A style shows a text in a colour.  Tabs are widened and line ends unified
first; the lines of a text that has several are padded to the same width.
-/

namespace AssetMinifier

/-- Whether colours are shown. -/
inductive Palette where
  | plain
  | trueColor
  deriving DecidableEq, Repr

/-- The look of a text. -/
structure Style where
  /-- The numbers of the escape sequence that selects the look. -/
  codes : Text
  /-- Whether an empty line follows. -/
  margin : Bool

namespace Style

/-- Titles are bold and sky blue, with an empty line below. -/
def title : Style := ⟨"1;38;2;14;165;233", true⟩

/-- Successes are bold and green. -/
def success : Style := ⟨"1;38;2;16;185;129", false⟩

/-- Errors are bold and red. -/
def error : Style := ⟨"1;38;2;239;68;68", false⟩

/-- Warnings are amber. -/
def warning : Style := ⟨"38;2;245;158;11", false⟩

/-- Less important lines are gray. -/
def muted : Style := ⟨"38;2;107;113;128", false⟩

/-- Notes are blue. -/
def info : Style := ⟨"38;2;59;130;246", false⟩

/-- Keys are bold and sky blue. -/
def key : Style := ⟨"1;38;2;14;165;233", false⟩

/-- Values are nearly white. -/
def value : Style := ⟨"38;2;229;231;235", false⟩

/-- One line in a style. -/
def renderLine (style : Style) (palette : Palette) (line : Text) : Text :=
  match palette with
  | .plain => line
  | .trueColor => "\x1b[" ++ style.codes ++ "m" ++ line ++ "\x1b[0m"

/-- Pad a line with blanks on the right. -/
def pad (width : Nat) (line : Text) : Text :=
  line ++ Text.blanks (width - line.cells)

/-- A text in a style. -/
def render (style : Style) (palette : Palette) (t : Text) : Text :=
  let t := Text.replace "\r\n" "\n" (Text.replace "\t" "    " t)
  let lines := (Text.splitOn 0x0A t).map (style.renderLine palette)
  let width := (lines.map Text.cells).foldl max 0
  let lines := if lines.length = 1 then lines else lines.map (pad width)
  Text.join "\n" (if style.margin then lines ++ [Text.blanks width] else lines)

end Style

end AssetMinifier
