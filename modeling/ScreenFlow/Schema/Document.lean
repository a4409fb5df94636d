import ScreenFlow.Json.Bytes
import ScreenFlow.Json.Writer
import ScreenFlow.Schema.Limits
import ScreenFlow.Value.Rendered

namespace ScreenFlow

/-! Schemas as documents. A document is a mapping with a list under `screens`; each screen is a
mapping with an id and a list of components, and each component is a mapping with a type. Sizes and
ids are checked on the whole document before any component is read. -/

/-! ## Reading -/

namespace Component

def rejectNameless (type : ComponentType) (screen position : Value)
    (entries : List (Value × Value)) : Except Fault α := do
  let given ← Json.write .sorted (.map entries)
  reject (.missingName (.text type.word) screen position given)

def readOptions (name options : Value) : Except Fault Value := do
  match options.unroll with
  | .null => return .null
  | .list options => return .list (← options.mapM fun option => option.render.map .text)
  | _ => rejectShape (.optionsKind (← name.render))

def ofValue (screen position value : Value) : Except Fault Component := do
  match value.unroll with
  | .map entries =>
      let type := Value.entry "type" entries
      let name := Value.entry "name" entries
      let label := Value.entry "label" entries
      let required := Value.bool (Value.entry "required" entries).isGiven
      match ComponentType.ofValue? type with
      | none => rejectShape (.unsupportedType (← type.renderInner))
      | some (.static type) =>
          return .static type (Value.entry "text" entries) (if name.isGiven then name else .null)
      | some (.input type) =>
          if name.isGiven then return .input type name label required
          else rejectNameless (.input type) screen position entries
      | some (.choice type) =>
          if name.isGiven then
            let options ← readOptions name (Value.entry "options" entries)
            return .choice type name label required options
          else rejectNameless (.choice type) screen position entries
  | value => rejectShape (.componentKind value.kindName)

def ofValues (screen : Text) : List (Nat × Value) → Except Fault (List Component)
  | [] => return []
  | (position, value) :: rest => do
      let component ← ofValue (.text screen) (.int position) value
      return component :: (← ofValues screen rest)

end Component

namespace Screen

/-- The parts of a screen that are needed before its components are read: its id and its list of
components. A list that is not given counts as empty. -/
def outline (value : Value) : Except Fault (Text × List Value) := do
  match value.unroll with
  | .map entries =>
      let id := Value.entry "id" entries
      let components := Value.entry "components" entries
      if id.isGiven then
        let id ← id.render
        if components.isGiven then
          match components.unroll with
          | .list components => return (id, components)
          | _ => rejectShape (.componentsKind id)
        else return (id, [])
      else rejectShape .screenWithoutId
  | value => rejectShape (.screenKind value.kindName)

def titleOf (value : Value) : Value :=
  match value.unroll with
  | .map entries => (Value.lookup? "title" entries).getD (.text "")
  | _ => .text ""

def ofValue (value : Value) : Except Fault Screen := do
  let (id, components) ← outline value
  Layout.checkComponentCount (.text id) (.int components.length)
  let components ← Component.ofValues id (Sequence.indexed components)
  return ⟨id, titleOf value, components⟩

end Screen

namespace Schema

def ofValue (value : Value) : Except Fault Schema := do
  match value.unroll with
  | .map entries =>
      match (Value.lookup? "screens" entries).map Value.unroll with
      | none => rejectShape .schemaShape
      | some (.list screens) =>
          Layout.checkScreenCount (.int screens.length)
          let outlines ← screens.mapM Screen.outline
          Layout.check (outlines.map fun (id, components) => (.text id, .int components.length))
          return ⟨← screens.mapM Screen.ofValue⟩
      | some _ => rejectShape .screensKind
  | _ => rejectShape .schemaShape

end Schema

/-! ## Writing -/

def field (name : Text) (value : Value) : Value × Value := (.text name, value)

def optionalField (name : Text) (value : Value) : List (Value × Value) :=
  if value.isNull then [] else [field name value]

namespace Component

def toValue : Component → Except Fault Value
  | .static type text name =>
      .ok (.map (field "type" (.text type.word) ::
        (optionalField "name" name ++ optionalField "text" text)))
  | .input type name label required =>
      .ok (.map ([field "type" (.text type.word), field "name" name, field "required" required] ++
        optionalField "label" label))
  | .choice type name label required options => do
      let options ←
        if options.isNull then pure Value.null
        else (orFault .wrongKind options.parts?).map Value.list
      return .map ([field "type" (.text type.word), field "name" name,
        field "required" required] ++ optionalField "label" label ++
        optionalField "options" options)
  | .foreign => .error .wrongKind

end Component

namespace Screen

def toValue (screen : Screen) : Except Fault Value := do
  let components ← screen.components.mapM Component.toValue
  return .map [field "id" (.text screen.id), field "title" screen.title,
    field "components" (.list components)]

end Screen

namespace Schema

def toValue (schema : Schema) : Except Fault Value := do
  return .map [field "screens" (.list (← schema.screens.mapM Screen.toValue))]

def ofJson (text : Text) : Except Fault Schema :=
  match Json.read text with
  | .ok value => ofValue value
  | .error error =>
      if error.fault = .malformedJson then rejectShape (.invalidJson error)
      else .error error.fault

def toJson (schema : Schema) : Except Fault Text := do
  Json.write .indented (← schema.toValue)

end Schema

end ScreenFlow
