import ScreenFlow.Yaml.Node
import ScreenFlow.Yaml.Timestamp
import ScreenFlow.Yaml.Token.Reader

namespace ScreenFlow.Yaml

/-! From tokens to nodes. An anchor is known before the parts of its node are read, so that an alias
among them leads back to the node. -/

def maxNesting : Nat := 490

/-- What a document of nodes is read from: the tokens left, what tag handles stand for, the anchors
that were seen, the nodes so far, and the number of collections around. -/
structure NodeSource where
  tokens : List Token
  handles : List (String × String)
  anchors : List (String × NodeId)
  graph : NodeGraph
  nesting : Nat

abbrev ReadNode := StateT NodeSource (Except Fault)

namespace ReadNode

def peek : ReadNode Token := do
  match (← get).tokens with
  | .unreadable fault :: _ => throw fault
  | token :: _ => return token
  | [] => return .streamEnd

def advance : ReadNode Unit :=
  modify fun source => { source with tokens := source.tokens.drop 1 }

def accept (token : Token) : ReadNode Bool := do
  if (← peek) == token then
    advance
    return true
  else return false

def expect (token : Token) : ReadNode Unit := do
  unless ← accept token do throw malformed

def sees (tokens : List Token) : ReadNode Bool := return tokens.contains (← peek)

/-! ## Properties -/

def anchor? : ReadNode (Option String) := do
  match ← peek with
  | .anchor name =>
      advance
      return some name
  | _ => return none

def writtenTag? : ReadNode (Option WrittenTag) := do
  match ← peek with
  | .tag tag =>
      advance
      return some tag
  | _ => return none

def expand (tag : WrittenTag) : ReadNode String := do
  match tag.handle with
  | none => return tag.suffix
  | some handle =>
      match (← get).handles.find? fun entry => entry.1 == handle with
      | some (_, expansion) => return expansion ++ tag.suffix
      | none => throw malformed

def properties : ReadNode (Option String × Option String) := do
  match ← anchor? with
  | some anchor => return (some anchor, ← (← writtenTag?).mapM expand)
  | none =>
      match ← writtenTag? with
      | some tag =>
          let anchor ← anchor?
          return (anchor, some (← expand tag))
      | none => return (none, none)

def anchored? (name : String) : ReadNode (Option NodeId) := do
  return ((← get).anchors.find? fun entry => entry.1 == name).map Prod.snd

def aliased (name : String) : ReadNode NodeId := do
  match ← anchored? name with
  | some id => return id
  | none => throw malformed

def add (anchor : Option String) (node : Node) : ReadNode NodeId :=
  modifyGet fun source =>
    let id := source.graph.size
    let named := (anchor.map fun name => (name, id)).toList
    (id, { source with graph := source.graph.push node, anchors := named ++ source.anchors })

def addCollection (anchor : Option String) (tag : Tag) (parts : ReadNode Node.Content) :
    ReadNode NodeId := do
  if maxNesting ≤ (← get).nesting then throw .tooDeep
  let id ← add anchor ⟨tag, .sequence []⟩
  modify fun source => { source with nesting := source.nesting + 1 }
  let content ← parts
  modify fun source =>
    { source with graph := source.graph.setContent id content, nesting := source.nesting - 1 }
  return id

/-! ## Nodes -/

/-- Whether a node has to be told from its form: it has no tag, or only the mark of one. -/
def isUntagged (tag : Option String) : Bool := tag.all (· == "!")

def scalarTag (tag : Option String) (content : Text) (plain : Bool) : Tag :=
  let characters := content.lossy.toList
  match tag with
  | none =>
      if plain then Tag.ofPlain WrittenTimestamp.isTimestamp characters else .text
  | some tag =>
      if tag = "!" then Tag.ofPlain WrittenTimestamp.isTimestamp characters
      else Tag.ofFull tag

def collectionTag (tag : Option String) (untagged : Tag) : Tag :=
  if isUntagged tag then untagged else tag.elim untagged Tag.ofFull

def nothing : ReadNode NodeId := add none ⟨.null, .scalar ""⟩

inductive Place where
  | flow
  | block
  /-- A key or a value of a block mapping, where a block sequence needs no indentation. -/
  | blockEntry
  deriving DecidableEq

mutual

def node (place : Place) : Nat → ReadNode NodeId
  | 0 => throw malformed
  | fuel + 1 => do
      match ← peek with
      | .alias name =>
          advance
          aliased name
      | _ =>
          let (anchor, tag) ← properties
          discard peek
          for name in anchor do
            if (← anchored? name).isSome then throw malformed
          content place anchor tag fuel
termination_by structural fuel => fuel

def content (place : Place) (anchor tag : Option String) : Nat → ReadNode NodeId
  | 0 => throw malformed
  | fuel + 1 => do
      let sequence (items : ReadNode (List NodeId)) : ReadNode NodeId :=
        addCollection anchor (collectionTag tag .sequence) (.sequence <$> items)
      let mapping (entries : ReadNode (List (NodeId × NodeId))) : ReadNode NodeId :=
        addCollection anchor (collectionTag tag .mapping) (.mapping <$> entries)
      match ← peek, place with
      | .blockEntry, .blockEntry => sequence (indentlessItems fuel)
      | .scalar content plain, _ =>
          advance
          add anchor ⟨scalarTag tag content plain, .scalar content⟩
      | .flowSequenceStart, _ =>
          advance
          sequence (flowItems true fuel)
      | .flowMappingStart, _ =>
          advance
          mapping (flowEntries true fuel)
      | .blockSequenceStart, .block | .blockSequenceStart, .blockEntry =>
          advance
          sequence (blockItems fuel)
      | .blockMappingStart, .block | .blockMappingStart, .blockEntry =>
          advance
          mapping (blockEntries fuel)
      | _, _ =>
          if anchor.isSome || tag.isSome then
            add anchor ⟨scalarTag tag "" true, .scalar ""⟩
          else throw malformed
termination_by structural fuel => fuel

def nodeUnless (place : Place) (ends : List Token) : Nat → ReadNode NodeId
  | 0 => throw malformed
  | fuel + 1 => do if ← sees ends then nothing else node place fuel
termination_by structural fuel => fuel

def valueUnless (place : Place) (ends : List Token) : Nat → ReadNode NodeId
  | 0 => throw malformed
  | fuel + 1 => do
      if ← accept .value then nodeUnless place ends fuel else nothing
termination_by structural fuel => fuel

def blockItems : Nat → ReadNode (List NodeId)
  | 0 => throw malformed
  | fuel + 1 => do
      if ← accept .blockEntry then
        let item ← nodeUnless .block [.blockEntry, .blockEnd] fuel
        return item :: (← blockItems fuel)
      else
        expect .blockEnd
        return []
termination_by structural fuel => fuel

def indentlessItems : Nat → ReadNode (List NodeId)
  | 0 => throw malformed
  | fuel + 1 => do
      if ← accept .blockEntry then
        let item ← nodeUnless .block [.blockEntry, .key, .value, .blockEnd] fuel
        return item :: (← indentlessItems fuel)
      else return []
termination_by structural fuel => fuel

def blockEntries : Nat → ReadNode (List (NodeId × NodeId))
  | 0 => throw malformed
  | fuel + 1 => do
      if ← accept .key then
        let key ← nodeUnless .blockEntry [.key, .value, .blockEnd] fuel
        let value ← valueUnless .blockEntry [.key, .value, .blockEnd] fuel
        return (key, value) :: (← blockEntries fuel)
      else
        expect .blockEnd
        return []
termination_by structural fuel => fuel

/-- The items of a flow sequence up to its bracket. A key makes a mapping of one entry. -/
def flowItems (first : Bool) : Nat → ReadNode (List NodeId)
  | 0 => throw malformed
  | fuel + 1 => do
      if ← accept .flowSequenceEnd then return []
      unless first do expect .flowEntry
      if ← accept .key then
        let entry ← addCollection none .mapping do
          let key ← nodeUnless .flow [.value, .flowEntry, .flowSequenceEnd] fuel
          let value ← valueUnless .flow [.flowEntry, .flowSequenceEnd] fuel
          return .mapping [(key, value)]
        return entry :: (← flowItems false fuel)
      else if ← accept .flowSequenceEnd then return []
      else
        let item ← node .flow fuel
        return item :: (← flowItems false fuel)
termination_by structural fuel => fuel

def flowEntries (first : Bool) : Nat → ReadNode (List (NodeId × NodeId))
  | 0 => throw malformed
  | fuel + 1 => do
      if ← accept .flowMappingEnd then return []
      unless first do expect .flowEntry
      if ← accept .key then
        let key ← nodeUnless .flow [.value, .flowEntry, .flowMappingEnd] fuel
        let value ← valueUnless .flow [.flowEntry, .flowMappingEnd] fuel
        return (key, value) :: (← flowEntries false fuel)
      else if ← accept .flowMappingEnd then return []
      else
        let key ← node .flow fuel
        let value ← nothing
        return (key, value) :: (← flowEntries false fuel)
termination_by structural fuel => fuel

end

/-! ## Documents -/

def standardHandles : List (String × String) := [("!", "!"), ("!!", Tag.family)]

def directives : Nat → Bool → List (String × String) → ReadNode (List (String × String))
  | 0, _, _ => throw malformed
  | fuel + 1, versioned, handles => do
      match ← peek with
      | .directive directive =>
          advance
          match directive with
          | .version major _ =>
              if versioned || major != 1 then throw malformed
              directives fuel true handles
          | .tag handle expansion =>
              if handles.any (·.1 == handle) then throw malformed
              directives fuel versioned ((handle, expansion) :: handles)
          | .other => directives fuel versioned handles
      | _ => return handles

def explicitRoot (fuel : Nat) : ReadNode NodeId := do
  let handles ← directives fuel false []
  expect .documentStart
  modify fun source => { source with handles := handles ++ standardHandles }
  match ← peek with
  | .directive _ | .documentStart | .documentEnd | .streamEnd => nothing
  | _ => node .block fuel

def skipDocumentEnds : Nat → ReadNode Unit
  | 0 => return
  | fuel + 1 => do if ← accept .documentEnd then skipDocumentEnds fuel

/-- The end of the text after a document. Another document is refused once its directives are
read. -/
def finish (fuel : Nat) : ReadNode Unit := do
  skipDocumentEnds fuel
  unless (← peek) == .streamEnd do
    let _ ← directives fuel false []
    throw malformed

def root? (fuel : Nat) : ReadNode (Option NodeId) := do
  match ← peek with
  | .streamEnd => return none
  | .directive _ | .documentStart =>
      let root ← explicitRoot fuel
      finish fuel
      return some root
  | _ =>
      let root ← node .block fuel
      finish fuel
      return some root

end ReadNode

namespace NodeGraph

def ofTokens (tokens : List Token) : Except Fault (NodeGraph × Option NodeId) := do
  let source : NodeSource :=
    { tokens, handles := ReadNode.standardHandles, anchors := [], graph := .empty,
      nesting := 0 }
  let (root, source) ← (ReadNode.root? (4 * tokens.length + 8)).run source
  return (source.graph, root)

end NodeGraph

end ScreenFlow.Yaml
