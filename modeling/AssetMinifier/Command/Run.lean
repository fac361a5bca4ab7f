import AssetMinifier.Build.Setup
import AssetMinifier.Command.Usage
import AssetMinifier.Watch.Session

/-!
# Running commands

What the program does with its arguments.  A run ends with an exit code, or it
goes on watching.
-/

namespace AssetMinifier

/-- What a run printed and left behind. -/
structure Report where
  fileSystem : FileSystem
  exitCode : Nat := 0
  output : Text := []
  errors : Text := []

/-- How a run goes. -/
inductive Run where
  | ended (report : Report)
  /-- The site is watched, after something was printed. -/
  | watching (output : Text) (w : Watch)

namespace Command

/-- Whether an argument gives a flag whose value is the next argument.  Flags
that are not known are taken for such. -/
def takesNext (arg : Text) : Bool :=
  !arg.contains Arguments.equals &&
    match arg with
    | 0x2D :: 0x2D :: name => !(Flag.ofName? Flag.settings name).any Flag.isSwitch
    | [0x2D, letter] => !(Flag.ofLetter? Flag.settings letter).any Flag.isSwitch
    | _ => false

/-- The first argument that is neither a flag nor the value of one, and the
other arguments. -/
def firstWord? : List Text → Option (Text × List Text)
  | [] => none
  | arg :: args =>
    if arg = "--" then none
    else if takesNext arg then
      match args with
      | value :: next :: rest =>
        (firstWord? (next :: rest)).map fun (word, others) => (word, arg :: value :: others)
      | _ => none
    else if arg.isEmpty || arg.head? = some Arguments.dash then
      (firstWord? args).map fun (word, others) => (word, arg :: others)
    else some (arg, args)

/-- The command that arguments name, and its own arguments. -/
def select (args : List Text) : Command × List Text :=
  match firstWord? args with
  | some (word, others) =>
    match ofWord? word with
    | some c => (c, others)
    | none => (build, args)
  | none => (build, args)

/-- Whether a command takes the given number of positional arguments. -/
def accepts (c : Command) (count : Nat) : Bool :=
  match c with
  | build | watch => count ≤ 1
  | help | version => true

/-- The error of too many positional arguments. -/
def tooMany (count : Nat) : Text :=
  "accepts at most 1 arg(s), received " ++ Text.ofNat count

/-- A run that ends because a command is used in a wrong way. -/
def misuse (fs : FileSystem) (c : Command) (message : Text) : Run :=
  .ended
    { fileSystem := fs
      exitCode := 1
      output := message ++ "\n"
      errors := "Error: " ++ message ++ "\n" ++ c.usage ++ "\n" }

/-- A run that prints something and ends well. -/
def say (fs : FileSystem) (output : Text) : Run :=
  .ended { fileSystem := fs, output }

/-- A run that fails after something was printed. -/
def fail (fs : FileSystem) (output template : Text) (message : Text) : Run :=
  .ended
    { fileSystem := fs
      exitCode := 1
      output := output ++ Message.error .plain template [message] }

/-- The lines after a build that went well. -/
def closing (s : Summary) : Text :=
  Message.newline ++ Message.divider .plain ++ Message.newline ++ Message.newline ++
    Message.total .plain s.files s.sourceSize s.minifiedSize s.savings ++
    Message.newline ++ Message.success .plain "Minification complete!" [] ++ Message.newline

/-- Build a site once. -/
def runBuild (fs : FileSystem) (b : Builder) : Run :=
  let header := b.report (Message.header .plain programVersion)
  let outcome := b.build fs
  let output := header ++ outcome.output
  match outcome.error with
  | some e => fail outcome.fileSystem output "Minification failed: %v" e.message
  | none =>
    .ended
      { fileSystem := outcome.fileSystem
        output := output ++ b.report (closing outcome.summary) }

/-- Start to watch a site. -/
def runWatch (fs : FileSystem) (b : Builder) : Run :=
  let header := Message.header .plain programVersion
  match Watch.start b fs with
  | .refused output e => fail fs (header ++ output) "Watch failed: %v" e.message
  | .started w => .watching header w

/-- Run a command with its arguments. -/
def execute (tools : Tools) (fs : FileSystem) (env : Environment) (c : Command)
    (args : Arguments) : Run :=
  let prepared := fun (next : Builder → Run) =>
    match Builder.ofArguments tools fs env args with
    | .error e => fail fs [] "%v" e.message
    | .ok b => next b
  match c with
  | help => say fs (select args.positional).1.helpText
  | version => say fs (programName ++ " " ++ programVersion ++ "\n")
  | build => prepared (runBuild fs)
  | watch => prepared (runWatch fs)

/-- Run the program. -/
def run (tools : Tools) (fs : FileSystem) (env : Environment) (args : List Text) : Run :=
  let (c, own) := select args
  match Arguments.read Flag.all own with
  | .error e => misuse fs c e.message
  | .ok a =>
    if a.flags.help = some true then say fs c.helpText
    else if c.accepts a.positional.length then execute tools fs env c a
    else misuse fs c (tooMany a.positional.length)

end Command

/-- What a run reports when it is asked to stop. -/
def Run.stop : Run → Report
  | ended report => report
  | watching output w =>
    let w := w.play []
    { fileSystem := w.fileSystem, output := output ++ w.output }

end AssetMinifier
