import AssetMinifier.Config.Value
import AssetMinifier.Text.Base64
import AssetMinifier.Yaml.Numeral
import AssetMinifier.Yaml.Timestamp

/-!
# The values of scalars

A plain scalar without a tag stands for a truth value, a number, a point in
time or nothing if it is spelled like one, and for its text otherwise.  A tag
says what a scalar has to stand for.
-/

namespace AssetMinifier.Yaml

/-- The words with a meaning of their own. -/
def words : List (String × Value) :=
  ["", "~", "null", "Null", "NULL"].map (·, .null) ++
    ["true", "True", "TRUE"].map (·, .bool true) ++
    ["false", "False", "FALSE"].map (·, .bool false) ++
    [".nan", ".NaN", ".NAN"].map (·, .float (0 / 0)) ++
    [".inf", ".Inf", ".INF", "+.inf", "+.Inf", "+.INF"].map (·, .float (1 / 0)) ++
    ["-.inf", "-.Inf", "-.INF"].map (·, .float (-1 / 0))

/-- The value of a word that starts with a digit or a sign. -/
def numeric? (dates : Bool) (cs : List Char) : Option Value :=
  if dates && isTimestamp cs then some (.time (String.ofList cs))
  else
    let cs := cs.filter (· ≠ '_')
    ((integer? cs).map .int) <|> ((decimal? cs).map .float) <|> ((markedInteger? cs).map .int)

/-- What a plain scalar stands for by its spelling.  Dates count only where
they are wanted. -/
def infer (dates : Bool) (text : String) : Value :=
  match words.lookup text with
  | some v => v
  | none =>
    let cs := text.toList
    let v? : Option Value :=
      match cs.head? with
      | some '.' => (pointed? cs).map .float
      | some c => if c.isDigit || c = '+' || c = '-' then numeric? dates cs else none
      | none => none
    v?.getD (.text text)

/-- The tag of a value. -/
def tagOf : Value → Text
  | .null => "!!null"
  | .bool _ => "!!bool"
  | .int _ => "!!int"
  | .float _ => "!!float"
  | .text _ => "!!str"
  | .time _ => "!!timestamp"
  | .list _ => "!!seq"
  | .map _ => "!!map"

/-- The value of a scalar with a tag of the core.  It must be spelled like a
value of that tag, but a whole number is also a decimal number. -/
def resolveAs? (tag : Text) (text : String) : Option Value :=
  let v := infer (tag = "!!timestamp") text
  match v with
  | .int n =>
    if tag = "!!float" then
      if n < Power.two 63 then
        (Nearest.ofFraction? n.natAbs 1).map fun x => .float (if n < 0 then -x else x)
      else none
    else if tag = "!!int" then some v
    else none
  | v => if tagOf v = tag then some v else none

/-- The tags of which a scalar must have the spelling. -/
def spelledTags : List Text :=
  ["!!null", "!!bool", "!!int", "!!float", "!!timestamp"]

/-- The value of a scalar, unless its tag forbids it. -/
def resolve? (tag : Option Text) (plain : Bool) (text : String) : Option Value :=
  match tag with
  | none => some (if plain then infer true text else .text text)
  | some t =>
    if t = "!!binary" then (Base64.decode? text).map .text
    else if spelledTags.contains t then resolveAs? t text
    else some (.text text)

end AssetMinifier.Yaml
