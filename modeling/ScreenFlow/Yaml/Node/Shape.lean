import ScreenFlow.Value.Same
import ScreenFlow.Yaml.Node.Merge
import ScreenFlow.Yaml.Scalar

namespace ScreenFlow.Yaml

/-! What nodes turn out to be. Scalars are known as soon as a node is met; the parts of a collection
are met only when its turn comes, in the order in which collections were met. So of several faults
the one nearest to the root is reported, and a collection may be a part of itself. -/

inductive Shape where
  | plain (value : Value)
  | list (items : List NodeId)
  | pairs (entries : List (NodeId × NodeId))
  | map (entries : List (Value × NodeId))
  | set (members : List Value)
  deriving DecidableEq, Repr

namespace Tag

def hasEntries : Tag → Bool
  | .mapping | .set => true
  | _ => false

def hasPairs : Tag → Bool
  | .orderedMapping | .pairs => true
  | _ => false

def isCollection : Tag → Bool
  | .sequence => true
  | tag => tag.hasEntries || tag.hasPairs

def isNothing : Tag → Bool
  | .merge | .value | .unknown => true
  | _ => false

end Tag

namespace NodeGraph

/-- The text of a node that stands for a scalar. A mapping has the text of its first equals sign. -/
def text (graph : NodeGraph) : Nat → NodeId → Except Fault Text
  | 0, _ => .error .tooDeep
  | fuel + 1, id =>
      match graph.content? id with
      | some (.scalar text) => .ok text
      | some (.mapping entries) =>
          match entries.find? fun entry => graph.hasTag .value entry.1 with
          | some (_, value) => graph.text fuel value
          | none => refuse
      | _ => refuse

/-- The value of a node with the tag of a scalar. A mapping cannot be a date. -/
def plain (graph : NodeGraph) (id : NodeId) (tag : Tag) : Except Fault Value := do
  require !tag.isNothing
  let text ← graph.text (graph.size + 1) id
  if tag = .timestamp && (graph.entries? id).isSome then throw .wrongKind
  Scalar.toValue tag text

end NodeGraph

structure Shaping where
  graph : NodeGraph
  shapes : Array (Option Shape)
  waiting : List NodeId

abbrev Shape.Find := StateT Shaping (Except Fault)

namespace Shape.Find

def put (id : NodeId) (shape : Shape) : Find Unit :=
  modify fun shaping => { shaping with shapes := shaping.shapes.set! id (some shape) }

def meet (id : NodeId) : Find Unit := do
  let shaping ← get
  match shaping.shapes[id]?.join, shaping.graph.node? id with
  | some _, _ => return
  | none, none => throw malformed
  | none, some node =>
      if node.tag.isCollection then
        put id (.list [])
        modify fun shaping => { shaping with waiting := id :: shaping.waiting }
      else
        put id (.plain (← shaping.graph.plain id node.tag))

def meetKey (id : NodeId) : Find Value := do
  meet id
  match (← get).shapes[id]?.join with
  | some (.plain value) => return value
  | _ => throw malformed

/-- A key with what tells it apart from other keys: an undefined number equals only itself, and all
that are written in the usual way are one. -/
structure Key where
  value : Value
  identity : NodeId

def Key.same (left right : Key) : Bool :=
  left.identity == right.identity || left.value.same right.value

def keyAt (id : NodeId) : Find Key := do
  let value ← meetKey id
  let graph := (← get).graph
  let isUsual := value == .float .nan && (graph.text 1 id).toOption.any Scalar.isUndefined
  return ⟨value, if isUsual then graph.size else id⟩

/-- Put a node under a key. A key that is already there keeps its place and its first form. -/
def insert (key : Key) (node : NodeId) : List (Key × NodeId) → List (Key × NodeId)
  | [] => [(key, node)]
  | entry :: entries =>
      if entry.1.same key then (entry.1, node) :: entries
      else entry :: insert key node entries

def meetEntries (id : NodeId) : Find (List (Value × NodeId)) := do
  let mut met : List (Key × NodeId) := []
  for (keyNode, valueNode) in ((← get).graph.entries? id).getD [] do
    let key ← keyAt keyNode
    meet valueNode
    met := insert key valueNode met
  return met.map fun (key, node) => (key.value, node)

def meetPair (id : NodeId) : Find (NodeId × NodeId) := do
  match (← get).graph.entries? id with
  | some [(first, second)] =>
      meet first
      meet second
      return (first, second)
  | _ => throw malformed

def meetParts (id : NodeId) : Find Unit := do
  let graph := (← get).graph
  match (graph.node? id).map Node.tag, graph.content? id with
  | some .sequence, some (.sequence items) =>
      items.forM meet
      put id (.list items)
  | some tag, some (.sequence items) =>
      unless tag.hasPairs do throw malformed
      put id (.pairs (← items.mapM meetPair))
  | some tag, some (.mapping _) =>
      unless tag.hasEntries do throw malformed
      let (_, graph) ← (NodeGraph.followMerges id).run graph
      modify fun shaping => { shaping with graph }
      let entries ← meetEntries id
      put id (if tag = .set then .set (entries.map Prod.fst) else .map entries)
  | _, _ => throw malformed

def meetAll : Nat → Find Unit
  | 0 => return
  | fuel + 1 => do
      let waiting := (← get).waiting.reverse
      modify fun shaping => { shaping with waiting := [] }
      waiting.forM meetParts
      unless waiting.isEmpty do meetAll fuel

end Shape.Find

def NodeGraph.shapes (graph : NodeGraph) (root : NodeId) :
    Except Fault (Array (Option Shape)) := do
  let start : Shaping := { graph, shapes := .replicate graph.size none, waiting := [] }
  let find : Shape.Find Unit := do
    Shape.Find.meet root
    Shape.Find.meetAll (graph.size + 1)
  return (← find.run start).2.shapes

end ScreenFlow.Yaml
