import ScreenFlow.Yaml.Node

namespace ScreenFlow.Yaml.NodeGraph

/-! Merge keys. A mapping takes over the entries of the mappings under its merge keys, before its
own entries, so that its own replace them. An equals sign as a key is a text. -/

abbrev Change := StateT NodeGraph (Except Fault)

def takeMergeKey? (id : NodeId) : Change (Option NodeId) := do
  let graph ← get
  let entries := (graph.entries? id).getD []
  match entries.span fun entry => !graph.hasTag .merge entry.1 with
  | (before, (_, source) :: after) =>
      set (graph.setContent id (.mapping (before ++ after)))
      return some source
  | _ => return none

/-- Put entries before those of a mapping. Its keys that are equals signs are texts from now on. -/
def takeOver (id : NodeId) (entries : List (NodeId × NodeId)) : Change Unit := do
  let graph ← get
  let own := (graph.entries? id).getD []
  let signs := (own.map Prod.fst).filter fun key => graph.hasTag .value key
  set (signs.foldl (fun graph key => graph.setTag key .text)
    (graph.setContent id (.mapping (entries ++ own))))

/-- Follow the merge keys of a mapping, after those that brought `merged`. Each takes one unit of
`fuel`, also in mappings that are merged. -/
def followFrom : Nat → List (NodeId × NodeId) → NodeId → Change Unit
  | 0, _, _ => throw malformed
  | fuel + 1, merged, id => do
      match ← takeMergeKey? id with
      | none => takeOver id merged
      | some source =>
          let merge (source : NodeId) : Change (List (NodeId × NodeId)) := do
            unless ((← get).entries? source).isSome do throw malformed
            followFrom fuel [] source
            return ((← get).entries? source).getD []
          let brought ←
            match (← get).content? source with
            | some (.sequence items) => pure (← items.mapM merge).reverse.flatten
            | _ => merge source
          followFrom fuel (merged ++ brought) id
termination_by structural fuel => fuel

def followMerges (id : NodeId) : Change Unit := do
  followFrom ((← get).entryCount + 1) [] id

/-- A mapping `\x7b<<: \x7ba\x7d, b\x7d` before and after its merge key is followed. -/
example :
    let entry : Node.Content := .mapping [(2, 2)]
    let text : Node := ⟨.text, .scalar "a"⟩
    let graph : NodeGraph := ⟨#[⟨.mapping, .mapping [(3, 1), (4, 4)]⟩, ⟨.mapping, entry⟩, text,
      ⟨.merge, .scalar "<<"⟩, text]⟩
    ((followMerges 0).run graph).toOption.bind (fun result => result.2.entries? 0) =
      some [(2, 2), (4, 4)] := by decide +kernel

end ScreenFlow.Yaml.NodeGraph
