import ScreenFlow.Yaml.Node.Reader
import ScreenFlow.Yaml.Node.Shape

namespace ScreenFlow.Yaml

/-! The value of a document. A collection that leads back to itself gets its number as a label. -/

namespace Shape

/-- A value, and the labels in it that belong to collections around it. -/
structure Part where
  value : Value
  labels : List Nat

/-- The values of nodes that lead back to nothing around them, as far as they are known. -/
abbrev Settled := StateM (Array (Option Value))

def close (id : NodeId) (content : Value) (labels : List Nat) : Settled Part := do
  if labels.contains id then
    return ⟨.cyclic id content, labels.filter (· != id)⟩
  if labels.isEmpty then
    modify fun settled => settled.set! id (some content)
  return ⟨content, labels⟩

def labelsOf (parts : List Part) : List Nat := (parts.flatMap Part.labels).eraseDups

def valueAt (shapes : Array (Option Shape)) : Nat → List NodeId → NodeId → Settled Part
  | 0, _, id => return ⟨.again id, [id]⟩
  | fuel + 1, around, id => do
      if around.contains id then return ⟨.again id, [id]⟩
      if let some value := (← get)[id]?.join then return ⟨value, []⟩
      let inside := valueAt shapes fuel (id :: around)
      match shapes[id]?.join with
      | none => return ⟨.null, []⟩
      | some (.plain value) => return ⟨value, []⟩
      | some (.set members) => return ⟨Value.setOf members, []⟩
      | some (.list items) =>
          let parts ← items.mapM inside
          close id (.list (parts.map Part.value)) (labelsOf parts)
      | some (.map entries) =>
          let parts ← entries.mapM fun (key, node) => return (key, ← inside node)
          close id (.map (parts.map fun (key, part) => (key, part.value)))
            (labelsOf (parts.map Prod.snd))
      | some (.pairs entries) =>
          let parts ← entries.mapM fun (first, second) => return (← inside first, ← inside second)
          close id (.list (parts.map fun (first, second) => .tuple [first.value, second.value]))
            (labelsOf (parts.flatMap fun (first, second) => [first, second]))

end Shape

def NodeGraph.value (graph : NodeGraph) (root : NodeId) : Except Fault Value := do
  let shapes ← graph.shapes root
  let unsettled := Array.replicate graph.size none
  return ((Shape.valueAt shapes (graph.size + 1) [] root).run unsettled).1.value

def read (text : String) : Except Fault Value := do
  match ← NodeGraph.ofTokens (tokens text) with
  | (graph, some root) => graph.value root
  | (_, none) => return .null

example : read "a: [1, yes]\nb: ~" =
    .ok (.map [(.text "a", .list [.int 1, .bool true]), (.text "b", .null)]) := by
  decide +kernel
example : read "<<: \x7ba: 1\x7d\na: 2" = .ok (.map [(.text "a", .int 2)]) := by decide +kernel
example : read "&a [*a]" = .ok (.cyclic 0 (.list [.again 0])) := by decide +kernel
example : read "a: b: c" = .error malformed := by decide +kernel

end ScreenFlow.Yaml
