import AssetMinifier.Flags.Basic

/-!
# Reading the arguments

Arguments that start with a dash give flags, alone or in groups of letters; all
others are positional, and both may be mixed.  Two dashes end the flags.
-/

namespace AssetMinifier

/-- Why arguments cannot be read. -/
inductive FlagError where
  | badForm (argument : Text)
  | unknownName (name : Text)
  | unknownLetter (letter : UInt8) (group : Text)
  | noValue (name : Text)
  | noLetterValue (letter : UInt8) (group : Text)
  | invalid (flag : Flag) (value : Text) (fault : FlagFault)
  /-- Help is asked for where it is no flag. -/
  | helpRequested
  deriving DecidableEq, Repr

namespace FlagError

/-- The character that stands for a letter.  Beyond ASCII it is the one whose
number starts the letter's encoding as a character. -/
def letterChar (letter : UInt8) : Char :=
  Char.ofNat (if letter < 0x80 then letter.toNat else if letter < 0xC0 then 0xC2 else 0xC3)

/-- A letter in single quotes. -/
def quoteLetter (letter : UInt8) : Text :=
  let shown : Text :=
    if letter = 0x27 then "\\'"
    else if letter = 0x22 then "\""
    else Text.quoteChar (letterChar letter)
  "'" ++ shown ++ "'"

/-- The text of an error. -/
def message : FlagError → Text
  | badForm argument => "bad flag syntax: " ++ argument
  | unknownName name => "unknown flag: --" ++ name
  | unknownLetter letter group =>
    "unknown shorthand flag: " ++ quoteLetter letter ++ " in -" ++ group
  | noValue name => "flag needs an argument: --" ++ name
  | noLetterValue letter group =>
    "flag needs an argument: " ++ quoteLetter letter ++ " in -" ++ group
  | invalid flag value fault =>
    "invalid argument " ++ value.quote ++ " for " ++ flag.title.quote ++ " flag: " ++
      fault.message
  | helpRequested => "pflag: help requested"

end FlagError

/-- What arguments say. -/
structure Arguments where
  flags : Flags := {}
  positional : List Text := []
  deriving DecidableEq, Repr

namespace Arguments

/-- What is said by one argument that gives flags: the flags are complete, or
the last one waits for its value, whose absence is an error. -/
inductive Step where
  | done (flags : Flags)
  | waiting (flags : Flags) (flag : Flag) (absence : FlagError)

/-- The dash. -/
def dash : UInt8 := 0x2D

/-- The byte between a flag and its value. -/
def equals : UInt8 := 0x3D

/-- The value of a switch that is given without one. -/
def switchedOn : Text := "true"

/-- Give a flag its value. -/
def assign (flags : Flags) (f : Flag) (value : Text) : Except FlagError Flags :=
  match flags.set f value with
  | .ok flags => .ok flags
  | .error fault => .error (.invalid f value fault)

/-- Read a flag behind two dashes. -/
def long (known : List Flag) (flags : Flags) (body : Text) : Except FlagError Step := do
  let name := body.takeWhile (· ≠ equals)
  let value? := (body.drop name.length).tail?
  if name.isEmpty || body.head? = some dash then throw (.badForm ("--" ++ body))
  else
    match Flag.ofName? known name, value? with
    | none, _ => throw (if name = Flag.help.name then .helpRequested else .unknownName name)
    | some f, some value => return .done (← assign flags f value)
    | some f, none =>
      if f.isSwitch then return .done (← assign flags f switchedOn)
      else return .waiting flags f (.noValue name)

/-- The start of letters that are passed over. -/
def reserved : Text := "test."

/-- Read a group of letters behind one dash.  A switch leaves the rest of the
group to others; any other flag takes it as its value. -/
def letters (known : List Flag) : Flags → Text → Except FlagError Step
  | flags, [] => .ok (.done flags)
  | flags, letter :: rest =>
    if reserved.isPrefixOf (letter :: rest) then .ok (.done flags)
    else
      match Flag.ofLetter? known letter with
      | none =>
        .error
          (if some letter = Flag.help.letter? then .helpRequested
            else .unknownLetter letter (letter :: rest))
      | some f =>
        if rest.head? = some equals && 1 < rest.length then do
          return .done (← assign flags f rest.tail)
        else if f.isSwitch then do
          letters known (← assign flags f switchedOn) rest
        else if !rest.isEmpty then do
          return .done (← assign flags f rest)
        else .ok (.waiting flags f (.noLetterValue letter [letter]))

/-- Read an argument that starts with a dash and holds more. -/
def flagsOf (known : List Flag) (flags : Flags) : Text → Except FlagError Step
  | [] => .ok (.done flags)
  | b :: rest => if b = dash then long known flags rest else letters known flags (b :: rest)

/-- Read arguments in turn, one of them perhaps as the value that the flag
before it waits for. -/
def readAll (known : List Flag) :
    Option (Flag × FlagError) → Arguments → List Text → Except FlagError Arguments
  | none, a, [] => .ok a
  | some (_, e), _, [] => .error e
  | some (f, _), a, arg :: args => do
    readAll known none { a with flags := ← assign a.flags f arg } args
  | none, a, arg :: args =>
    if arg.head? ≠ some dash || arg.length = 1 then
      readAll known none { a with positional := a.positional ++ [arg] } args
    else if arg = [dash, dash] then .ok { a with positional := a.positional ++ args }
    else
      match flagsOf known a.flags arg.tail with
      | .error e => .error e
      | .ok (.done flags) => readAll known none { a with flags } args
      | .ok (.waiting flags f e) => readAll known (some (f, e)) { a with flags } args

/-- Read arguments, with the flags that are known. -/
def read (known : List Flag) (args : List Text) : Except FlagError Arguments :=
  readAll known none {} args

end Arguments

end AssetMinifier
