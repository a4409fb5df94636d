import ScreenFlow.Schema

namespace ScreenFlow

/-! What a schema has to satisfy before it is compiled. Sizes and ids are checked on pairs of a
screen id and a component count, so that a document can be checked before its components are
read. -/

namespace Layout

def exceeds (limit : Nat) (count : Value) : Except Fault Bool :=
  match count.whole?, count with
  | some count, _ => .ok (count > limit)
  | none, .float count => .ok ((Binary64.ofInt limit).less count)
  | none, _ => .error .wrongKind

def checkScreenCount (count : Value) : Except Fault Unit := do
  if count.same (.int 0) then reject .noScreens
  else if ← exceeds maxScreens count then reject (.tooManyScreens (.int maxScreens) count)
  else return

def checkComponentCount (screen count : Value) : Except Fault Unit := do
  if ← exceeds maxComponents count then
    reject (.tooManyComponents (.int maxComponents) count screen)
  else return

def checkScreens (seen : List Value) : List (Value × Value) → Except Fault Unit
  | [] => .ok ()
  | (screen, count) :: rest =>
      if !screen.isKey then .error .wrongKind
      else if seen.any screen.same then reject (.repeatedScreen screen)
      else do
        checkComponentCount screen count
        checkScreens (screen :: seen) rest

def check (sizes : List (Value × Value)) : Except Fault Unit := do
  checkScreenCount (.int sizes.length)
  checkScreens [] sizes

def sizeOf (value : Value) : Except Fault (Value × Value) :=
  match value.parts? with
  | some [screen, count] => .ok (screen, count)
  | some _ => .error .badValue
  | none => .error .wrongKind

def sizesOf : List Value → List (Value × Value) × Except Fault Unit
  | [] => ([], .ok ())
  | value :: rest =>
      match sizeOf value with
      | .ok size =>
          let (sizes, outcome) := sizesOf rest
          (size :: sizes, outcome)
      | .error fault => ([], .error fault)

/-- All sizes as one value. What comes before a part that is no size is checked before it. -/
def checkValue (sizes : Value) : Except Fault Unit := do
  let parts ← orFault .wrongKind sizes.parts?
  checkScreenCount (.int parts.length)
  let (sizes, outcome) := sizesOf parts
  checkScreens [] sizes
  outcome

example : checkValue (.list [.list [.int 1, .int 1], .list [.bool true, .int 1]]) =
    reject (.repeatedScreen (.bool true)) := by decide +kernel

end Layout

namespace Schema

def sizes (schema : Schema) : List (Value × Value) :=
  schema.screens.map fun screen => (.text screen.id, .int screen.components.length)

def checkKeys (seen : List Text) : List Placed → Except Fault Unit
  | [] => .ok ()
  | placed :: rest => do
      match ← placed.boundKey? with
      | some key =>
          if seen.contains key then reject (.repeatedName (.text key) (.text placed.screen))
          else checkKeys (key :: seen) rest
      | none => checkKeys seen rest

def checkNames (schema : Schema) : Except Fault Unit :=
  checkKeys [] (schema.screens.flatMap Screen.placed)

def validate (schema : Schema) : Except Fault Unit := do
  Layout.check schema.sizes
  schema.checkNames

end Schema

end ScreenFlow
