import AssetMinifier.Yaml.Cursor

/-!
# Points in time

Which words of a document are dates, with or without a time of day.
-/

namespace AssetMinifier.Yaml

namespace Timestamp

/-- A number of one or two digits within bounds, and the rest. -/
def field? (low high : Nat) (cs : List Char) : Option (Nat × List Char) := do
  let digits := (cs.take 2).takeWhile Char.isDigit
  let n := digits.foldl (fun n d => 10 * n + (d.toNat - '0'.toNat)) 0
  if digits.isEmpty || n < low || high < n then none
  else some (n, cs.drop digits.length)

/-- The rest behind a character. -/
def skip? (c : Char) : List Char → Option (List Char)
  | [] => none
  | d :: cs => if c = d then some cs else none

/-- The number of days in a month. -/
def daysIn (year month : Nat) : Nat :=
  if month = 2 then
    if year % 4 = 0 && (year % 100 ≠ 0 || year % 400 = 0) then 29 else 28
  else if month = 4 || month = 6 || month = 9 || month = 11 then 30
  else 31

/-- The rest behind a date. -/
def date? (cs : List Char) : Option (List Char) := do
  let digits := cs.takeWhile Char.isDigit
  let year := digits.foldl (fun n d => 10 * n + (d.toNat - '0'.toNat)) 0
  if digits.length ≠ 4 then none
  else
    let (month, cs) ← field? 1 12 (← skip? '-' (cs.drop 4))
    let (_, cs) ← field? 1 (daysIn year month) (← skip? '-' cs)
    some cs

/-- The rest behind the fraction of a second, which may be absent. -/
def fraction (cs : List Char) : List Char :=
  let digits := cs.tail.takeWhile Char.isDigit
  if (cs.head? = some '.' || cs.head? = some ',') && !digits.isEmpty then
    cs.drop (digits.length + 1)
  else cs

/-- The rest behind a time of day. -/
def clock? (cs : List Char) : Option (List Char) := do
  let (_, cs) ← field? 0 23 cs
  let (_, cs) ← field? 0 59 (← skip? ':' cs)
  let (_, cs) ← field? 0 59 (← skip? ':' cs)
  some (fraction cs)

/-- Whether a word is the offset of a time zone. -/
def isZone : List Char → Bool
  | ['Z'] => true
  | [sign, h, i, ':', m, n] =>
    (sign = '+' || sign = '-') && [h, i, m, n].all Char.isDigit &&
      (field? 0 24 [h, i]).isSome && (field? 0 60 [m, n]).isSome
  | _ => false

end Timestamp

/-- Whether a word is a date, or a date and a time of day. -/
def isTimestamp (cs : List Char) : Bool :=
  match Timestamp.date? cs with
  | none => false
  | some [] => true
  | some (c :: cs) =>
    if c = 'T' || c = 't' then (Timestamp.clock? cs).any Timestamp.isZone
    else if c = ' ' then (Timestamp.clock? (cs.dropWhile (· = ' '))).any List.isEmpty
    else false

end AssetMinifier.Yaml
