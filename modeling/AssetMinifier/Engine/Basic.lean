import AssetMinifier.Engine.Diagnostic
import AssetMinifier.Engine.Kind
import AssetMinifier.Minify.Script
import AssetMinifier.Minify.Stylesheet
import AssetMinifier.Text.Quoted

/-!
# Engines

An engine is a named function from a kind and a source to a minified source.
The rule engine applies the passes of `AssetMinifier.Stylesheet` and
`AssetMinifier.Script`.  The two other engines hand their sources to tools from
elsewhere.  Nothing is known here about what these tools do, so they are
parameters of whatever uses an engine by its name.
-/

namespace AssetMinifier

/-- Why an engine gave no result. -/
inductive EngineError where
  /-- No engine has the name. -/
  | unknownEngine (name : Text)
  /-- The kind is neither a stylesheet nor a script. -/
  | unsupportedKind (kind : Kind)
  /-- The named engine complains about the source. -/
  | rejected (engine : Text) (complaints : List Diagnostic)
  deriving DecidableEq, Repr

/-- What a transformer made of a source.  The code counts only if there are no
complaints. -/
structure Transformed where
  code : Text
  complaints : List Diagnostic

/-- The tools from elsewhere. -/
structure Tools where
  transform : Kind → Text → Transformed
  /-- A minified source, or the text of an error. -/
  shorten : Kind → Text → Except Text Text

/-- A minifier with a name. -/
structure Engine where
  name : Text
  minify : Kind → Text → Except EngineError Text

namespace Engine

/-- Minify by the passes for the kind. -/
def byPasses (kind : Kind) (source : Text) : Except EngineError Text :=
  match kind with
  | .css => .ok (Stylesheet.minify source)
  | .js => .ok (Script.minify source)
  | kind => .error (.unsupportedKind kind)

/-- The engine of text rules. -/
def rules : Engine where
  name := "regex"
  minify := byPasses

/-- Hand stylesheets and scripts to a function, and nothing else. -/
def onSources (f : Kind → Text → Except EngineError Text) (kind : Kind)
    (source : Text) : Except EngineError Text :=
  match kind with
  | .css => f .css source
  | .js => f .js source
  | kind => .error (.unsupportedKind kind)

/-- The engine that transforms sources. -/
def transforming (tools : Tools) : Engine where
  name := "esbuild"
  minify := onSources fun kind source =>
    let transformed := tools.transform kind source
    if transformed.complaints.isEmpty then .ok transformed.code.trim
    else .error (.rejected "esbuild" transformed.complaints)

/-- The engine that shortens sources. -/
def shortening (tools : Tools) : Engine where
  name := "tdewolff"
  minify := onSources fun kind source =>
    (tools.shorten kind source).mapError fun message =>
      .rejected "tdewolff" [⟨none, message⟩]

/-- All engines, by name. -/
def registry : List (Text × (Tools → Engine)) :=
  [("esbuild", transforming), ("regex", fun _ => rules), ("tdewolff", shortening)]

/-- The names of the engines. -/
def names : List Text :=
  registry.map Prod.fst

/-- The name of the engine used if none is named. -/
def defaultName : Text :=
  "regex"

/-- The engine with a name, in any case.  The empty name stands for the
default. -/
def ofName (tools : Tools) (name : Text) : Except EngineError Engine :=
  let wanted := if name.isEmpty then defaultName else name
  match registry.lookup wanted.lower with
  | some make => .ok (make tools)
  | none => .error (.unknownEngine wanted)

/-- Minify a source a number of times, each time the result of the time
before; all results in order. -/
def iterate (engine : Engine) (kind : Kind) :
    Nat → Text → Except EngineError (List Text)
  | 0, _ => .ok []
  | times + 1, source => do
    let minified ← engine.minify kind source
    let later ← iterate engine kind times minified
    return minified :: later

end Engine

/-- The text of an engine's error. -/
def EngineError.message : EngineError → Text
  | unknownEngine name =>
    "unknown engine: " ++ name.quote ++ " (available: " ++
      Text.join ", " Engine.names ++ ")"
  | unsupportedKind kind => "unsupported source kind: " ++ kind.name
  | rejected engine complaints => engine ++ ": " ++ Diagnostic.renderAll complaints

end AssetMinifier
