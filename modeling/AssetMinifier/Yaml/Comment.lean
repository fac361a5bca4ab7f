import AssetMinifier.Yaml.Cursor

/-!
# Comments

A comment runs from a number sign to the end of its line.  A comment behind a
token belongs to the token's line.  Comments on lines of their own are passed
over together, with the white space between them, whatever it consists of.
-/

namespace AssetMinifier.Yaml.Scan

/-- How far ahead a comment is looked for. -/
def commentReach : Nat :=
  512

/-- The distance of a comment behind blanks, from a number of characters on. -/
def lineCommentAhead : Nat → Nat → Scan (Option Nat)
  | 0, _ => return none
  | fuel + 1, n => do
    need (n + 1)
    let ch ← peekAt n
    if isBlank ch then lineCommentAhead fuel (n + 1)
    else return if ch = '#' then some n else none

/-- The distance of a comment behind blanks and line ends, from a number of
characters on.  Only the line ends of one byte are looked past. -/
def commentAhead : Nat → Nat → Scan (Option Nat)
  | 0, _ => return none
  | fuel + 1, n => do
    need (n + 1)
    let ch ← peekAt n
    if isBlank ch || ch = '\n' || ch = '\r' then commentAhead fuel (n + 1)
    else if isBreak ch && fuel ≠ 0 then
      need (n + 2)
      return none
    else return if ch = '#' then some n else none

/-- Pass over everything up to the end of the comment that starts at an
index. -/
def skipComment (start : Nat) : Nat → Scan Unit
  | 0 => return ()
  | fuel + 1 => do
    need 1
    let ch ← peek
    if isStop ch then
      if (← get).index < start then
        need 2
        skipLine
        skipComment start fuel
    else
      skip
      skipComment start fuel

/-- Pass over the comment behind a token on the same line. -/
def skipLineComment : Scan Unit := do
  let c ← get
  if c.breaks = 0 then
    match ← lineCommentAhead commentReach 0 with
    | some n => skipComment (c.index + n) c.size
    | none => return ()

/-- Pass over the comments that follow the end of one. -/
def skipMoreComments : Nat → Scan Unit
  | 0 => return ()
  | fuel + 1 => do
    let ch ← peek
    need 2
    if ch = '\n' || ch = '\r' then
      match ← commentAhead (commentReach - 1) 1 with
      | some n =>
        let c ← get
        skipComment (c.index + n) c.size
        skipMoreComments fuel
      | none => return ()

/-- Pass over a comment and over those that follow it on other lines. -/
def skipComments : Scan Unit := do
  let c ← get
  skipComment c.index c.size
  skipMoreComments c.size

end AssetMinifier.Yaml.Scan
