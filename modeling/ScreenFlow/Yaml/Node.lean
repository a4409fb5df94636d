import ScreenFlow.Yaml.Tag

namespace ScreenFlow.Yaml

/-! Nodes, the parts of a YAML document. An alias is one more place of the node that has its anchor,
so nodes form a graph, and a node may lead back to itself. -/

abbrev NodeId := Nat

inductive Node.Content where
  | scalar (text : Text)
  | sequence (items : List NodeId)
  | mapping (entries : List (NodeId × NodeId))
  deriving DecidableEq, Repr

structure Node where
  tag : Tag
  content : Node.Content
  deriving DecidableEq, Repr

structure NodeGraph where
  nodes : Array Node
  deriving DecidableEq, Repr

namespace NodeGraph

def empty : NodeGraph := ⟨#[]⟩

def push (node : Node) (graph : NodeGraph) : NodeGraph := ⟨graph.nodes.push node⟩

def size (graph : NodeGraph) : Nat := graph.nodes.size

def node? (id : NodeId) (graph : NodeGraph) : Option Node := graph.nodes[id]?

def content? (id : NodeId) (graph : NodeGraph) : Option Node.Content :=
  (graph.node? id).map Node.content

def setContent (id : NodeId) (content : Node.Content) (graph : NodeGraph) : NodeGraph :=
  ⟨graph.nodes.modify id fun node => { node with content }⟩

def setTag (id : NodeId) (tag : Tag) (graph : NodeGraph) : NodeGraph :=
  ⟨graph.nodes.modify id fun node => { node with tag }⟩

def hasTag (tag : Tag) (id : NodeId) (graph : NodeGraph) : Bool :=
  (graph.node? id).any fun node => node.tag == tag

def entries? (id : NodeId) (graph : NodeGraph) : Option (List (NodeId × NodeId)) :=
  match graph.content? id with
  | some (.mapping entries) => some entries
  | _ => none

def entryCount (graph : NodeGraph) : Nat :=
  graph.nodes.foldl (fun count node =>
    match node.content with
    | .mapping entries => count + entries.length
    | _ => count) 0

end NodeGraph

end ScreenFlow.Yaml
