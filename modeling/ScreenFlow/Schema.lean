import ScreenFlow.Component

namespace ScreenFlow

/-! Schemas, the forms as their authors describe them: screens in order, each with its components
in order. -/

structure Screen where
  id : Text
  title : Value
  components : List Component
  deriving DecidableEq, Repr

structure Schema where
  screens : List Screen
  deriving DecidableEq, Repr

/-- A component together with its screen and its position there. -/
structure Placed where
  screen : Text
  position : Nat
  component : Component
  deriving DecidableEq, Repr

namespace Placed

def boundKey? (placed : Placed) : Except Fault (Option Text) :=
  placed.component.boundKey? (.text placed.screen) (.int placed.position)

end Placed

namespace Screen

def placed (screen : Screen) : List Placed :=
  (Sequence.indexed screen.components).map fun (position, component) =>
    ⟨screen.id, position, component⟩

def bound (screens : List Screen) : Except Fault (List (Text × Component)) :=
  collect (screens.flatMap placed)
where
  collect : List Placed → Except Fault (List (Text × Component))
    | [] => return []
    | placed :: rest => do
        match ← placed.boundKey? with
        | some key => return (key, placed.component) :: (← collect rest)
        | none => collect rest

def compareComponents (undefined : Bool) :
    List Component → List Component → Except Fault Bool
  | [], [] => .ok true
  | left :: lefts, right :: rights => do
      if ← left.compare undefined right then compareComponents undefined lefts rights
      else return false
  | _, _ => .ok false

def compare (undefined : Bool) (left right : Screen) : Except Fault Bool := do
  if left.id != right.id then return false
  if !(← left.title.compare undefined right.title) then return false
  if left.components.length != right.components.length then return false
  compareComponents undefined left.components right.components

end Screen

namespace Schema

def screen? (schema : Schema) (id : Text) : Option Screen :=
  schema.screens.find? fun screen => screen.id == id

def compareScreens (undefined : Bool) : List Screen → List Screen → Except Fault Bool
  | [], [] => .ok true
  | left :: lefts, right :: rights => do
      if ← left.compare undefined right then compareScreens undefined lefts rights
      else return false
  | _, _ => .ok false

def compare (undefined : Bool) (left right : Schema) : Except Fault Bool :=
  if left.screens.length != right.screens.length then .ok false
  else compareScreens undefined left.screens right.screens

end Schema

end ScreenFlow
