import ScreenFlow.Flow.Widget
import ScreenFlow.Ordered

namespace ScreenFlow

/-! Data that flows between screens. Every screen declares what the screens before it have
collected, and hands on what it received together with what its own form holds. -/

/-- A declared datum: texts, one for each field, or a list of texts for a field with many
answers. -/
inductive Placeholder where
  | text
  | texts
  deriving DecidableEq, Repr

/-- Where a value is taken from when a screen is left: from the data the screen received, or from
its own form. -/
inductive Reference where
  | data (key : Text)
  | form (key : Text)
  deriving DecidableEq, Repr

namespace Placeholder

def ofComponent : Component → Placeholder
  | .choice .checkbox .. => .texts
  | _ => .text

def toValue : Placeholder → Value
  | .text => .map [field "type" (.text "string"), field "__example__" (.text "Example")]
  | .texts =>
      .map [field "type" (.text "array"), field "items" (.map [field "type" (.text "string")]),
        field "__example__" (.list [])]

end Placeholder

namespace Reference

def render : Reference → Text
  | .data key => "$\x7bdata." ++ key ++ "\x7d"
  | .form key => "$\x7bform." ++ key ++ "\x7d"

def toValue (reference : Reference) : Value := .text reference.render

end Reference

namespace Screen

def contracts (screens : List Screen) : Except Fault (List (Text × Placeholder)) := do
  let bound ← bound screens
  return Ordered.ofEntries (bound.map fun (key, component) => (key, .ofComponent component))

def dataReferences (screens : List Screen) : Except Fault (List (Text × Reference)) := do
  let bound ← bound screens
  return Ordered.ofEntries (bound.map fun (key, _) => (key, .data key))

def formReferences (screen : Screen) : Except Fault (List (Text × Reference)) := do
  let bound ← bound [screen]
  return Ordered.ofEntries (bound.map fun (key, _) => (key, .form key))

/-- What a screen hands on: the data of some screens, where its own form replaces the data for
its own fields. -/
def payload (screen : Screen) (screens : List Screen) :
    Except Fault (List (Text × Reference)) := do
  let received ← dataReferences screens
  return Ordered.update received (← formReferences screen)

end Screen

end ScreenFlow
