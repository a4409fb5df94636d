import ScreenFlow.Flow.Binding
import ScreenFlow.Flow.Routing
import ScreenFlow.Text.Encoded

namespace ScreenFlow

/-! Compiled flows. A flow document has one record for each screen of the schema, in order: its
widgets, what it declares, and the action that leaves it. -/

inductive Action where
  | navigate (next : Text) (payload : List (Text × Reference))
  | complete (payload : List (Text × Reference))
  deriving DecidableEq, Repr

structure ScreenRecord where
  id : Text
  title : Value
  data : List (Text × Placeholder)
  terminal : Bool
  widgets : List Widget
  action : Action
  deriving DecidableEq, Repr

structure AssembledScreen where
  record : ScreenRecord
  edge : Option (Text × Text)
  diagnostics : List Diagnostic
  deriving DecidableEq, Repr

structure FlowDocument where
  routing : List (Text × Text)
  screens : List ScreenRecord
  deriving DecidableEq, Repr

/-- A compiled form and the notes about what was changed. -/
structure CompiledFlow where
  document : FlowDocument
  diagnostics : List Diagnostic
  deriving DecidableEq, Repr

def flowVersion : Text := "3.1"

def dataApiVersion : Text := "3.0"

/-! ## Compiling -/

namespace Component

def compileAll (screen : Text) :
    List (Nat × Component) → Except Fault (List Widget × List Diagnostic)
  | [] => return ([], [])
  | (position, component) :: rest => do
      let (widget, diagnostic) ← component.compile (.text screen) (.int position)
      let (widgets, diagnostics) ← compileAll screen rest
      return (widget :: widgets, diagnostic.toList ++ diagnostics)

end Component

namespace Schema

/-- Compile the screen at a position. The last screen completes the form and hands on everything;
any other one leads to its successor and hands on what has been collected so far. -/
def assemble (schema : Schema) (position : Int) : Except Fault AssembledScreen := do
  let total := schema.screens.length
  let screen ← orFault .outOfRange (Sequence.at? schema.screens position)
  let (widgets, diagnostics) ←
    Component.compileAll screen.id (Sequence.indexed screen.components)
  let terminal := position = (total : Int) - 1
  let boundary := if terminal then (total : Int) else position + 1
  let payload ← screen.payload (Sequence.upTo schema.screens boundary)
  let edge := schema.edge? position
  let action :=
    match edge with
    | some (_, next) => .navigate next payload
    | none => .complete payload
  let data ← Screen.contracts (Sequence.upTo schema.screens position)
  return {
    record := { id := screen.id, title := screen.title, data, terminal, widgets, action }
    edge, diagnostics }

def compile (schema : Schema) : Except Fault CompiledFlow := do
  schema.validate
  let assembled ← (List.range schema.screens.length).mapM fun position : Nat =>
    schema.assemble (position : Int)
  return {
    document := {
      routing := Ordered.ofEntries (assembled.filterMap (·.edge))
      screens := assembled.map (·.record) }
    diagnostics := assembled.flatMap (·.diagnostics) }

end Schema

/-! ## Documents -/

def tableValue (toValue : α → Value) (table : List (Text × α)) : Value :=
  .map (table.map fun (key, value) => field key (toValue value))

namespace Action

def payload : Action → List (Text × Reference)
  | .navigate _ payload => payload
  | .complete payload => payload

def toValue : Action → Value
  | .navigate next payload =>
      .map [field "name" (.text "navigate"),
        field "next" (.map [field "type" (.text "screen"), field "name" (.text next)]),
        field "payload" (tableValue Reference.toValue payload)]
  | .complete payload =>
      .map [field "name" (.text "complete"),
        field "payload" (tableValue Reference.toValue payload)]

end Action

namespace ScreenRecord

def footerValue (record : ScreenRecord) : Value :=
  .map [field "type" (.text "Footer"),
    field "label" (.text (if record.terminal then "Done" else "Continue")),
    field "on-click-action" record.action.toValue]

def toValue (record : ScreenRecord) : Value :=
  let form := Value.map [field "type" (.text "Form"), field "name" (.text "flow_path"),
    field "children" (.list (record.widgets.map Widget.toValue ++ [record.footerValue]))]
  .map [field "id" (.text record.id), field "title" record.title,
    field "data" (tableValue Placeholder.toValue record.data),
    field "terminal" (.bool record.terminal),
    field "layout" (.map [field "type" (.text "SingleColumnLayout"),
      field "children" (.list [form])])]

end ScreenRecord

namespace FlowDocument

/-- The value of a flow document, with its keys in the order in which they are written. -/
def toValue (document : FlowDocument) : Value :=
  .map [field "version" (.text flowVersion), field "data_api_version" (.text dataApiVersion),
    field "routing_model" (tableValue (fun next => .list [.text next]) document.routing),
    field "screens" (.list (document.screens.map ScreenRecord.toValue))]

def toJson (document : FlowDocument) : Except Fault Text :=
  Json.write .readable document.toValue

def encode (document : FlowDocument) : Except Fault (List UInt8) := do (← document.toJson).encode

end FlowDocument

end ScreenFlow
