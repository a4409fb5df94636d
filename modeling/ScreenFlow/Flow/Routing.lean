import ScreenFlow.Ordered
import ScreenFlow.Schema

namespace ScreenFlow

/-! Routing. Every screen but the last leads to the one after it. -/

namespace Schema

/-- The id of a screen and of the one it leads to, unless it is the last. -/
def edge? (schema : Schema) (position : Int) : Option (Text × Text) :=
  if position ≥ (schema.screens.length : Int) - 1 then none
  else do
    let screen ← Sequence.at? schema.screens position
    let next ← Sequence.at? schema.screens (position + 1)
    return (screen.id, next.id)

def routing (schema : Schema) : List (Text × Text) :=
  Ordered.ofEntries ((List.range schema.screens.length).filterMap fun position : Nat =>
    schema.edge? (position : Int))

end Schema

end ScreenFlow
