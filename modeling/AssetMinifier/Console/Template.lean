import AssetMinifier.Text.Basic

/-!
# Templates

A template is a text with places for arguments.  `%s` and `%v` take the next
argument and `%%` is a percent sign.  A place without an argument, an argument
without a place and a percent sign without a letter are reported in the text.
-/

namespace AssetMinifier.Template

/-- The byte that marks a place. -/
def mark : UInt8 := 0x25

/-- The report of arguments that no place took. -/
def surplus (args : List Text) : Text :=
  if args.isEmpty then []
  else "%!(EXTRA " ++ Text.join ", " (args.map ("string=" ++ ·)) ++ ")"

/-- Fill the places of a template with arguments, in order. -/
def fill : Text → List Text → Text
  | [], args => surplus args
  | [b], args => if b = mark then "%!(NOVERB)" ++ surplus args else b :: surplus args
  | b :: verb :: t, args =>
    if b ≠ mark then b :: fill (verb :: t) args
    else if verb = mark then mark :: fill t args
    else
      match args with
      | [] => "%!" ++ verb :: "(MISSING)" ++ fill t []
      | arg :: args =>
        if verb = 0x73 || verb = 0x76 then arg ++ fill t args
        else "%!" ++ verb :: "(string=" ++ arg ++ ")" ++ fill t args

end AssetMinifier.Template
