/-
What a viewer holds between two requests: the items of the last outline and the
message of the last failure. Every refresh replaces both.
-/
import SourceOutline.Generator

set_option autoImplicit false

namespace SourceOutline

/-- The state of a viewer. -/
structure Session where
  items : List Item := []
  errorMessage : Option String := none

namespace Session

/-- The state after an outcome. -/
def after : Outcome → Session
  | .ready outline => { items := outline.items }
  | .unsupported extension => { errorMessage := some ("Unsupported file type: ." ++ extension) }
  | .failed message _ => { errorMessage := some message }

/-- Makes an outline and shows it. -/
def refresh {σ : Type} (generator : Generator σ) (source : Source) (options : Options)
    (world : World σ) : Outcome × Session × World σ :=
  let (outcome, world) := generator.generate source options world
  (outcome, after outcome, world)

/-- The state without items and message. -/
def cleared : Session := {}

end Session

end SourceOutline
