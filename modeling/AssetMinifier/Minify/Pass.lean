import AssetMinifier.Text.Basic

/-!
# Passes

A minifier is a list of passes over the whole text, each applied to what the
one before it left.
-/

namespace AssetMinifier

/-- A pass turns a text into a text. -/
abbrev Pass := Text → Text

namespace Pass

/-- Apply passes one after another. -/
def run : List Pass → Text → Text
  | [], t => t
  | pass :: passes, t => run passes (pass t)

theorem run_append
    (passes more : List Pass) (t : Text) :
    run (passes ++ more) t = run more (run passes t) := by
  induction passes generalizing t with
  | nil => rfl
  | cons pass passes ih => exact ih (pass t)

/-- The text after each pass in turn. -/
def stages : List Pass → Text → List Text
  | [], _ => []
  | pass :: passes, t => pass t :: stages passes (pass t)

end Pass

end AssetMinifier
