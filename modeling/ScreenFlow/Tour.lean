import ScreenFlow.Command.Session
import ScreenFlow.Report
import ScreenFlow.Sample
import ScreenFlow.Schema.File

namespace ScreenFlow.Tour

/-! A tour through all that can be done with a form: it is read, analyzed, compiled and drawn, and
each step tells what it found. -/

open Command Session

def rule : String := String.ofList (List.replicate 80 '=')

def done (text : Text) : Text := "   ✓ " ++ text

def readSchema (path : Option String) : Step Schema := do
  tell "\n1. LOADING SCHEMA..."
  let schema ←
    match path with
    | some path => do
        let schema ← orEscape (Schema.load (← get).files path)
        tell (done s!"Loaded {path}")
        pure schema
    | none => do
        tell (done "Built example signup schema")
        pure Sample.signup
  tell (done s!"Screens: {schema.screens.length}")
  return schema

def analyze (schema : Schema) : Step Unit := do
  tell "\n2. ANALYZING SCHEMA..."
  let report ← orEscape schema.analyze
  let terminal := report.terminal.getD "None"
  tell (done s!"Fields: {report.totalFields}")
  tell (done ("Terminal screen: " ++ terminal))
  report.inbound.forM fun (screen, count) =>
    tell (done (screen ++ s!" reads {count} upstream fields"))
  if !report.warnings.isEmpty then
    tell s!"\n   Warnings ({report.warnings.length}):"
    report.warnings.forM fun warning => tell ("      - " ++ warning.display)

def compile (schema : Schema) : Step Unit := do
  tell "\n3. COMPILING FLOW JSON..."
  let (outcome, files) := schema.saveFlow (← get).files "flow.json"
  modify fun session => { session with files }
  let compiled ← orEscape outcome
  let routing := tableValue (fun next => .list [.text next]) compiled.document.routing
  tell (done ("Routing model: " ++ routing.display))
  tell (done "Saved flow.json")
  compiled.diagnostics.forM fun diagnostic =>
    tell ("   ! " ++ diagnostic.component ++ ": " ++ diagnostic.message)

def draw (schema : Schema) (mode : DiagramMode) : Step Unit := do
  let path := s!"flow_{mode.word}.dot"
  let (outcome, files) := schema.saveDiagram mode (← get).files path
  modify fun session => { session with files }
  orEscape outcome
  tell (done s!"Saved {path}")

def drawAll (schema : Schema) : Step Unit := do
  tell "\n4. GENERATING DIAGRAMS..."
  draw schema .simple
  draw schema .detailed
  tell "\n   Sample detailed output:"
  let text ← orEscape (schema.diagram .detailed)
  (text.toList.splitOn (.char '\n')).forM fun line => tell ("   " ++ ⟨line⟩)

def proceed (path : Option String) : Step Unit := do
  tell rule
  tell "COMPLETE PIPELINE DEMO: Schema → Analysis → Flow JSON → Diagram"
  tell rule
  let schema ← readSchema path
  analyze schema
  compile schema
  drawAll schema
  tell s!"\n{rule}"
  tell "PIPELINE COMPLETE!"
  tell "\nTo visualize the diagrams:"
  tell "  dot -Tpng flow_simple.dot -o flow_simple.png"
  tell rule

/-- How the tour ends, and what it has done. Words after the first one do not count. -/
def run (files : Files) (arguments : List String) : Ending × Session :=
  match (proceed arguments.head?).run (.start files) with
  | .ok _ session => (.exit 0, session)
  | .error ending session => (ending, session)

end ScreenFlow.Tour
