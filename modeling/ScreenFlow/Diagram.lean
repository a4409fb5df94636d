import ScreenFlow.Flow.Routing
import ScreenFlow.Text.Alphanumeric
import ScreenFlow.Text.Digit

namespace ScreenFlow

/-! Diagrams of the screen chain in the DOT language: one node for each screen, one edge for each
step, and the last screen set apart. -/

/-- What a node shows: the title alone, or the keys of the fields below it. -/
inductive DiagramMode where
  | simple
  | detailed
  deriving DecidableEq, Repr

namespace DiagramMode

def word : DiagramMode → String
  | .simple => "simple"
  | .detailed => "detailed"

def ofWord? (word : Text) : Option DiagramMode :=
  [.simple, .detailed].find? fun mode => (mode.word : Text) == word

end DiagramMode

namespace Diagram

/-! ## Tokens -/

def escapePoint (point : Point) : List Point :=
  if point = '\\' then ['\\', '\\']
  else if point = '"' then ['\\', '"']
  else if point = '\n' then ['\\', 'n']
  else [point]

def quote (text : Text) : Text :=
  ⟨'"' :: (text.toList.flatMap escapePoint ++ [.char '"'])⟩

/-- Whether an id can stand without quotes: letters, numerals and underscores, not all of them
underscores, and no digit at the front. -/
def isBare (id : Text) : Bool :=
  let letters := id.toList.filter (· ≠ .char '_')
  !id.toList.head?.any Text.isDigit && !letters.isEmpty && letters.all Text.isAlphanumeric

def idToken (id : Text) : Text := if isBare id then id else quote id

def quoteValue (value : Value) : Except Fault Text :=
  if value.isGiven then
    match value with
    | .text text => .ok (quote text)
    | .bytes _ => .error .wrongKind
    | .date _ | .moment _ => .error .wrongKind
    | _ => .error .missingPart
  else .ok "\"\""

def valueToken (value : Value) : Except Fault Text :=
  if value.isGiven then
    match value with
    | .text id => .ok (idToken id)
    | .list _ | .tuple _ | .bytes _ => .error .missingPart
    | .map _ => .error .unknownWord
    | _ => .error .wrongKind
  else .ok "\"\""

/-! ## Statements -/

def fields (screen : Screen) : Except Fault (List Text) := do
  return (← Screen.bound [screen]).map Prod.fst

def label (mode : DiagramMode) (screen : Screen) : Except Fault Value := do
  let title := if screen.title.isGiven then screen.title else .text screen.id
  match mode with
  | .simple => return title
  | .detailed =>
      let fields ← fields screen
      if fields.isEmpty then return title
      else
        let title ← orFault .wrongKind title.text?
        return .text (title ++ "\n" ++ Text.intercalate "\n" fields)

def node (mode : DiagramMode) (last : Bool) (screen : Screen) : Except Fault Text := do
  let label ← quoteValue (← label mode screen)
  let attributes := "label=" ++ label ++
    if last then ", shape=doubleoctagon, fillcolor=lightgreen" else ""
  return "  " ++ idToken screen.id ++ " [" ++ attributes ++ "];"

def nodes (mode : DiagramMode) : List Screen → Except Fault (List Text)
  | [] => return []
  | screen :: rest => do
      let statement ← node mode rest.isEmpty screen
      return statement :: (← nodes mode rest)

def edge (source target : Text) : Text :=
  "  " ++ idToken source ++ " -> " ++ idToken target ++ ";"

end Diagram

namespace Schema

def diagramLines (mode : DiagramMode) (schema : Schema) : Except Fault (List Text) := do
  let nodes ← Diagram.nodes mode schema.screens
  let edges := schema.routing.map fun (source, target) => Diagram.edge source target
  return [("digraph flow \x7b" : Text), "  rankdir=LR;",
    "  node [shape=box, style=filled, fillcolor=lightblue];"] ++ nodes ++ edges ++ [("\x7d" : Text)]

def diagram (mode : DiagramMode) (schema : Schema) : Except Fault Text := do
  return Text.intercalate "\n" (← schema.diagramLines mode)

end Schema

example : Diagram.idToken "a_1" = "a_1" := by decide +kernel
example : Diagram.idToken "1a" = "\"1a\"" := by decide +kernel

end ScreenFlow
