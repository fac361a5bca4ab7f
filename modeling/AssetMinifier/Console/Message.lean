import AssetMinifier.Console.Style
import AssetMinifier.Console.Template
import AssetMinifier.Number.ByteSize
import AssetMinifier.Number.Grouped

/-!
# Messages

Everything that the program prints about its work.
-/

namespace AssetMinifier.Message

/-- The end of a line. -/
def newline : Text := "\n"

/-- A line with an icon in a style. -/
def line (style : Style) (icon : Text) (palette : Palette) (template : Text)
    (args : List Text) : Text :=
  style.render palette (icon ++ " " ++ Template.fill template args) ++ newline

/-- The line that reports a success. -/
def success : Palette → Text → List Text → Text :=
  line .success "✓"

/-- The line that reports progress. -/
def info : Palette → Text → List Text → Text :=
  line .info "•"

/-- The line that reports an error. -/
def error : Palette → Text → List Text → Text :=
  line .error "✗"

/-- The line that reports a warning. -/
def warning : Palette → Text → List Text → Text :=
  line .warning "⚠"

/-- A key and its value. -/
def keyValue (palette : Palette) (key value : Text) : Text :=
  "  " ++ Style.key.render palette (key ++ ":") ++ " " ++
    Style.value.render palette value ++ newline

/-- The size of a file before and after, and the percentage saved. -/
def savings (source minified : Int64) (percent : Float) : Text :=
  Grouped.render source.toInt ++ " -> " ++ Grouped.render minified.toInt ++
    " bytes (" ++ Fixed.render 1 percent ++ "% smaller)"

/-- The line with the savings of one file. -/
def savingsLine (palette : Palette) (source minified : Int64)
    (percent : Float) : Text :=
  Style.muted.render palette ("  " ++ savings source minified percent) ++ newline

/-- The totals of a build. -/
def total (palette : Palette) (files : Int) (source minified : Int64)
    (percent : Float) : Text :=
  keyValue palette "Files" ("  " ++ Grouped.render files) ++
    keyValue palette "Before" (" " ++ ByteSize.render source.toUInt64) ++
    keyValue palette "After" ("  " ++ ByteSize.render minified.toUInt64) ++
    keyValue palette "Saved" ("  " ++ Fixed.render 1 percent ++ "%")

/-- The line between parts. -/
def divider (palette : Palette) : Text :=
  Style.muted.render palette "─────────────────────────────────────────"

/-- The name of the program in large letters. -/
def banner (palette : Palette) : Text :=
  Style.title.render palette
    ("\n █▀▀ █  █ █▀▀█ ▀█▀ █▀▀▄ █ █" ++
      "\n ▀▀█ █▀▀█ █▄▄▀  █  █  █ █▀▄" ++
      "\n ▀▀▀ ▀  ▀ ▀ ▀▀ ▀▀▀ ▀  ▀ ▀ ▀")

/-- The line with the version. -/
def version (palette : Palette) (v : Text) : Text :=
  Style.value.render palette (" Version: " ++ v) ++ newline

/-- The opening of the output. -/
def header (palette : Palette) (v : Text) : Text :=
  newline ++ divider palette ++ newline ++ banner palette ++ newline ++
    version palette v ++ newline ++ divider palette ++ newline ++ newline

end AssetMinifier.Message
