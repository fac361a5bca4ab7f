import AssetMinifier.Number.Shortest

/-!
# Values of settings

What a setting may hold before it is known what it should hold.  A layer is a
table of such values; an upper layer is laid over a lower one.
-/

namespace AssetMinifier

/-- The value of a setting. -/
inductive Value where
  | null
  | bool (b : Bool)
  | int (n : Int)
  | float (x : Float)
  | text (t : Text)
  /-- A point in time as it was written, which no setting can hold. -/
  | time (spelling : Text)
  | list (items : List Value)
  | map (fields : List (Text × Value))

/-- A table of values. -/
abbrev Layer := List (Text × Value)

namespace Layer

/-- Put a value at a key, in place of the one that was there. -/
def put (key : Text) (v : Value) : Layer → Layer
  | [] => [(key, v)]
  | (k, w) :: rest => if k = key then (k, v) :: rest else (k, w) :: put key v rest

mutual

/-- A value laid over another one.  Only tables are combined. -/
def overlay : Value → Value → Value
  | .map upper, .map lower => .map (merge upper lower)
  | upper, _ => upper

/-- A layer laid over another one. -/
def merge : Layer → Layer → Layer
  | [], lower => lower
  | (k, v) :: upper, lower =>
    let combined :=
      match lower.lookup k with
      | some w => overlay v w
      | none => v
    merge upper (put k combined lower)

end

end Layer

end AssetMinifier
