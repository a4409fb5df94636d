import ScreenFlow.Proofs.Identifiers

namespace ScreenFlow

/-! Diagrams as graphs of the DOT language. A screen has a line that declares its node and a step
one that declares its edge, and all lines together are a graph, as long as no screen has a reserved
word for an id. The line of such a screen declares no node. -/

open Outcome

namespace Diagram

/-! ## Lines -/

def lineOf : Statement → Text
  | .node id label terminal =>
      "  " ++ idToken id ++ " [" ++ ("label=" ++ quote label ++
        if terminal then ", shape=doubleoctagon, fillcolor=lightgreen" else "") ++ "];"
  | .edge source target => edge source target

def declaration : Statement → Dot.Statement
  | .node id label terminal => .node (nameOf id) (("label", nameOf label) ::
      if terminal then [("shape", "doubleoctagon"), ("fillcolor", "lightgreen")] else [])
  | .edge source target => .edge (nameOf source) (nameOf target) []

def closingTokens (terminal : Bool) : List Dot.Token :=
  (if terminal then
    [.mark ',', .name "shape", .mark '=', .name "doubleoctagon",
      .mark ',', .name "fillcolor", .mark '=', .name "lightgreen"]
  else []) ++ [.mark ']']

def tokensOf : Statement → List Dot.Token
  | .node id label terminal =>
      tokenOf id :: .mark '[' :: .name "label" :: .mark '=' :: .name (nameOf label) ::
        closingTokens terminal
  | .edge source target => [tokenOf source, .arrow, tokenOf target]

theorem run?_closing (terminal : Bool) : Dot.run? .between (closing terminal).toList =
    some (closingTokens terminal ++ [.mark ';'], .between) := by
  cases terminal <;> decide +kernel

theorem run?_lineOf (statement : Statement) :
    Dot.run? .between (lineOf statement).toList =
      some (tokensOf statement ++ [.mark ';'], .between) := by
  have indented : Dot.run? .between (Text.ofString "  ").toList = some ([], .between) := by
    decide +kernel
  have spaced (id : Text) : Dot.run? .between ((idToken id).toList ++ [.char ' ']) =
      some ([tokenOf id], .between) := run?_idToken id (by decide) (by decide)
  cases statement with
  | node id label terminal =>
      have line : (lineOf (.node id label terminal)).toList =
          (Text.ofString "  ").toList ++ (((idToken id).toList ++ [.char ' ']) ++
            ((Text.ofString "[label=").toList ++
              ((quote label).toList ++ (closing terminal).toList))) := by
        simp [lineOf, closing, Text.toList_ofString]
      have opened : Dot.run? .between (Text.ofString "[label=").toList =
          some ([.mark '[', .name "label", .mark '='], .between) := by decide +kernel
      have read := Dot.run?_append indented (Dot.run?_append (spaced id) (Dot.run?_append opened
        (Dot.run?_append (run?_quote label) (run?_closing terminal))))
      rw [line, read]
      rfl
  | edge source target =>
      have line : (lineOf (.edge source target)).toList =
          (Text.ofString "  ").toList ++ (((idToken source).toList ++ [.char ' ']) ++
            ((Text.ofString "-> ").toList ++ ((idToken target).toList ++ [.char ';']))) := by
        simp [lineOf, edge, Text.toList_ofString]
      have arrow : Dot.run? .between (Text.ofString "-> ").toList = some ([.arrow], .between) := by
        decide +kernel
      have ended : Dot.run? .between ((idToken target).toList ++ [.char ';']) =
          some ([tokenOf target, .mark ';'], .between) :=
        run?_idToken target (by decide) (by decide)
      have read := Dot.run?_append indented (Dot.run?_append (spaced source)
        (Dot.run?_append arrow ended))
      rw [line, read]
      rfl

def Statement.ids : Statement → List Text
  | .node id _ _ => [id]
  | .edge source target => [source, target]

theorem attributes_closing (label : Text) (terminal : Bool) :
    Dot.Attributes (("label", label) ::
        if terminal then [("shape", "doubleoctagon"), ("fillcolor", "lightgreen")] else [])
      (.mark '[' :: .name "label" :: .mark '=' :: .name label :: closingTokens terminal) := by
  cases terminal with
  | false => exact .more (.more [] (by simp) .none) .none
  | true =>
      exact .more (.more [.mark ','] (by simp) (.more [.mark ','] (by simp)
        (.more [] (by simp) .none))) .none

theorem forms_declaration {statement : Statement}
    (free : ∀ id ∈ statement.ids, ¬ Dot.Reserved id) :
    Dot.Forms (declaration statement) (tokensOf statement) := by
  cases statement with
  | node id label terminal =>
      rw [tokensOf, tokenOf_of_free (free id (by simp [Statement.ids]))]
      exact .node (attributes_closing (nameOf label) terminal)
  | edge source target =>
      rw [tokensOf, tokenOf_of_free (free source (by simp [Statement.ids])),
        tokenOf_of_free (free target (by simp [Statement.ids]))]
      exact .edge .none

def DeclaresNode (line : Text) : Prop :=
  ∃ name attributes, Dot.States (.node name attributes) line

def DeclaresEdge (line : Text) : Prop :=
  ∃ source target attributes, Dot.States (.edge source target attributes) line

theorem states_lineOf_iff {statement : Statement} {declared : Dot.Statement} :
    Dot.States declared (lineOf statement) ↔ Dot.Forms declared (tokensOf statement) := by
  rw [Dot.States, Dot.tokens?_of_run (run?_lineOf statement)]
  constructor
  · rintro ⟨tokens, formed, read⟩
    rwa [List.append_cancel_right (Option.some.inj read)]
  · exact fun formed => ⟨_, formed, rfl⟩

theorem declaresNode_iff {id label : Text} {terminal : Bool} :
    DeclaresNode (lineOf (.node id label terminal)) ↔ ¬ Dot.Reserved id := by
  constructor
  · rintro ⟨name, attributes, stated⟩ reserved
    rcases tokenOf_of_reserved reserved with ⟨keyword, same⟩
    have formed := states_lineOf_iff.mp stated
    rw [tokensOf, same] at formed
    cases formed
  · intro free
    exact ⟨_, _, states_lineOf_iff.mpr (@forms_declaration (.node id label terminal)
      (by simpa [Statement.ids] using free))⟩

theorem declaresEdge_iff {source target : Text} :
    DeclaresEdge (lineOf (.edge source target)) ↔
      ¬ Dot.Reserved source ∧ ¬ Dot.Reserved target := by
  constructor
  · rintro ⟨first, second, attributes, stated⟩
    have formed := states_lineOf_iff.mp stated
    rw [tokensOf] at formed
    refine ⟨fun reserved => ?_, fun reserved => ?_⟩
    · rcases tokenOf_of_reserved reserved with ⟨keyword, same⟩
      rw [same] at formed
      cases formed
    · rcases tokenOf_of_reserved reserved with ⟨keyword, same⟩
      rw [same] at formed
      generalize tokenOf source = begins at formed
      cases formed
  · intro free
    exact ⟨_, _, _, states_lineOf_iff.mpr (@forms_declaration (.edge source target)
      (by simpa [Statement.ids] using free))⟩

/-! ## Texts -/

def prelude : List Dot.Statement :=
  [.setting "rankdir" "LR",
    .defaults .node [("shape", "box"), ("style", "filled"), ("fillcolor", "lightblue")]]

def openingTokens : List (List Dot.Token) :=
  [[.keyword .digraph, .name "flow", .mark '\x7b'],
    [.name "rankdir", .mark '=', .name "LR", .mark ';'],
    [.keyword .node, .mark '[', .name "shape", .mark '=', .name "box", .mark ',', .name "style",
      .mark '=', .name "filled", .mark ',', .name "fillcolor", .mark '=', .name "lightblue",
      .mark ']', .mark ';']]

def ReadsAs (line : Text) (row : List Dot.Token) : Prop :=
  Dot.run? .between line.toList = some (row, .between)

theorem readsAs_intercalate {lines : List Text} {rows : List (List Dot.Token)}
    (read : List.Forall₂ ReadsAs lines rows) :
    ReadsAs (Text.intercalate "\n" lines) rows.flatten := by
  induction read with
  | nil => rfl
  | @cons line row lines rows first rest induction =>
      cases rest with
      | nil => simpa [Text.intercalate] using first
      | cons second rest =>
          have feed : Dot.run? .between (Text.ofString "\n").toList = some ([], .between) := by
            decide +kernel
          rw [Text.intercalate_cons_cons, ReadsAs, Text.toList_append, Text.toList_append,
            List.append_assoc]
          have ran := Dot.run?_append first (Dot.run?_append feed induction)
          exact ran

theorem readsAs_opening : List.Forall₂ ReadsAs opening openingTokens :=
  .cons (by rw [ReadsAs]; decide +kernel) (.cons (by rw [ReadsAs]; decide +kernel)
    (.cons (by rw [ReadsAs]; decide +kernel) .nil))

section Statements

variable {statements : List Statement}

theorem readsAs_lines (statements : List Statement) : List.Forall₂ ReadsAs (statements.map lineOf)
    (statements.map fun statement => tokensOf statement ++ [.mark ';']) := by
  induction statements with
  | nil => exact .nil
  | cons statement statements induction => exact .cons (run?_lineOf statement) induction

theorem body_declarations
    (free : ∀ statement ∈ statements, ∀ id ∈ statement.ids, ¬ Dot.Reserved id) :
    Dot.Body (statements.map declaration)
      (statements.map fun statement => tokensOf statement ++ [.mark ';']).flatten := by
  induction statements with
  | nil => exact .none
  | cons statement statements induction =>
      rw [List.forall_mem_cons] at free
      rw [List.map_cons, List.map_cons, List.flatten_cons, List.append_assoc]
      exact .more (forms_declaration free.1) [.mark ';'] (by simp) (induction free.2)

theorem graph_textOf
    (free : ∀ statement ∈ statements, ∀ id ∈ statement.ids, ¬ Dot.Reserved id) :
    Dot.Graph "flow" (prelude ++ statements.map declaration) (textOf (statements.map lineOf)) := by
  have closed : List.Forall₂ ReadsAs [("\x7d" : Text)] [[.mark '\x7d']] := .cons rfl .nil
  have read : ReadsAs (textOf (statements.map lineOf)) _ := readsAs_intercalate
    (List.rel_append (List.rel_append readsAs_opening (readsAs_lines statements)) closed)
  have boxes : Dot.Attributes [("shape", "box"), ("style", "filled"), ("fillcolor", "lightblue")]
      [.mark '[', .name "shape", .mark '=', .name "box", .mark ',', .name "style", .mark '=',
        .name "filled", .mark ',', .name "fillcolor", .mark '=', .name "lightblue", .mark ']'] :=
    .more (.more [.mark ','] (by simp) (.more [.mark ','] (by simp)
      (.more [] (by simp) .none))) .none
  refine ⟨_, .more (.setting "rankdir" "LR") [.mark ';'] (by simp)
    (.more (.defaults (by simp) (by simp) boxes) [.mark ';'] (by simp)
      (body_declarations free)), ?_⟩
  rw [Dot.tokens?_of_run read]
  simp [openingTokens]

theorem lineOf_whole (statement : Statement) : .char '\n' ∉ (lineOf statement).toList := by
  cases statement with
  | node id label terminal =>
      cases terminal <;> simp [lineOf, feed_not_mem_idToken, feed_not_mem_quote]
  | edge source target => simp [lineOf, edge, feed_not_mem_idToken]

theorem linesOf_lines (statements : List Statement) :
    linesOf (textOf (statements.map lineOf)) =
      (opening ++ statements.map lineOf ++ [("\x7d" : Text)]).map Text.toList := by
  rw [textOf, linesOf_intercalate (by simp)]
  simp only [List.forall_mem_append, List.forall_mem_map]
  exact ⟨⟨by decide, fun statement _ => lineOf_whole statement⟩, by decide⟩

end Statements

theorem nodes_eq {mode : DiagramMode} {screens : List Screen}
    (drawable : ∀ screen ∈ screens, screen.Drawable mode) :
    nodes mode screens = .ok ((nodesOf mode screens).map lineOf) := by
  induction screens with
  | nil => rfl
  | cons screen rest induction =>
      rw [List.forall_mem_cons] at drawable
      have first : node mode rest.isEmpty screen =
          .ok (lineOf (.node screen.id (screen.caption mode) rest.isEmpty)) := by
        rw [node_eq, drawable.1.label_eq, ok_bind, quoteValue_text]
        rfl
      rw [nodes, first, ok_bind, induction drawable.2, nodesOf_cons]
      rfl

theorem forall_mem_nodesOf_iff {mode : DiagramMode} {holds : Statement → Prop}
    {asked : Screen → Prop} {screens : List Screen}
    (same : ∀ screen label terminal, holds (.node screen.id label terminal) ↔ asked screen) :
    (∀ statement ∈ nodesOf mode screens, holds statement) ↔ ∀ screen ∈ screens, asked screen := by
  induction screens with
  | nil => simp [nodesOf]
  | cons screen rest induction =>
      rw [nodesOf_cons, List.forall_mem_cons, List.forall_mem_cons, same, induction]

end Diagram

/-! ## Forms -/

namespace Ordered

theorem mem_of_mem_insert {key : Text} {value : α} {table : List (Text × α)}
    {entry : Text × α} (member : entry ∈ insert key value table) :
    entry = (key, value) ∨ entry ∈ table := by
  induction table with
  | nil => exact .inl (List.mem_singleton.mp member)
  | cons head rest induction =>
      rw [insert] at member
      split at member
      · next same =>
          rcases List.mem_cons.mp member with rfl | later
          · exact .inl (by rw [same])
          · exact .inr (List.mem_cons_of_mem _ later)
      · rcases List.mem_cons.mp member with rfl | later
        · exact .inr List.mem_cons_self
        · exact (induction later).imp_right (List.mem_cons_of_mem _)

theorem mem_of_mem_update {table entries : List (Text × α)} {entry : Text × α}
    (member : entry ∈ update table entries) : entry ∈ table ∨ entry ∈ entries := by
  induction entries generalizing table with
  | nil => exact .inl member
  | cons head rest induction =>
      rcases induction member with early | later
      · rcases mem_of_mem_insert early with rfl | old
        · exact .inr List.mem_cons_self
        · exact .inl old
      · exact .inr (List.mem_cons_of_mem _ later)

end Ordered

namespace Schema

variable {schema : Schema} {mode : DiagramMode} {text : Text}

theorem exists_of_mem_routing {step : Text × Text} (member : step ∈ schema.routing) :
    (∃ screen ∈ schema.screens, screen.id = step.1) ∧
      ∃ screen ∈ schema.screens, screen.id = step.2 := by
  rcases Ordered.mem_of_mem_update member with none | entered
  · cases none
  · rcases List.mem_filterMap.mp entered with ⟨position, inside, found⟩
    have there := List.getElem?_eq_getElem (List.mem_range.mp inside)
    rw [edge?_eq there, Option.map_eq_some_iff] at found
    rcases found with ⟨next, behind, rfl⟩
    exact ⟨⟨_, List.getElem_mem _, rfl⟩, ⟨next, List.mem_of_getElem? behind, rfl⟩⟩

theorem diagram_eq (drawable : ∀ screen ∈ schema.screens, screen.Drawable mode) :
    schema.diagram mode = .ok (Diagram.textOf ((schema.drawn mode).map Diagram.lineOf)) := by
  rw [diagram, diagramLines, Diagram.nodes_eq drawable, ok_bind, drawn, List.map_append,
    List.map_map]
  rfl

/-- Lines for the screens and the steps of a form, between the opening of a diagram and its closing
brace, where each line of a screen declares a node and each line of a step an edge. -/
structure DeclaredBy (schema : Schema) (text : Text) (nodes edges : List Text) : Prop where
  lines : Diagram.linesOf text =
    (Diagram.opening ++ (nodes ++ edges) ++ [("\x7d" : Text)]).map Text.toList
  screens : nodes.length = schema.screens.length
  steps : edges.length = schema.routing.length
  nodes : ∀ line ∈ nodes, Diagram.DeclaresNode line
  edges : ∀ line ∈ edges, Diagram.DeclaresEdge line

def Declared (schema : Schema) (text : Text) : Prop :=
  ∃ nodes edges, schema.DeclaredBy text nodes edges

/-- No screen of the form has a reserved word for an id. -/
def Unreserved (schema : Schema) : Prop := ∀ screen ∈ schema.screens, ¬ Dot.Reserved screen.id

theorem declaredBy_lines_iff (drawable : ∀ screen ∈ schema.screens, screen.Drawable mode)
    (made : schema.diagram mode = .ok text) {nodes edges : List Text} :
    Diagram.linesOf text =
          (Diagram.opening ++ (nodes ++ edges) ++ [("\x7d" : Text)]).map Text.toList ∧
        nodes.length = schema.screens.length ↔
      nodes = (Diagram.nodesOf mode schema.screens).map Diagram.lineOf ∧
        edges = (schema.routing.map fun step => .edge step.1 step.2).map Diagram.lineOf := by
  rw [diagram_eq drawable] at made
  have injective : Function.Injective Text.toList := fun _ _ => Text.toList_inj.mp
  rw [← Except.ok.inj made, Diagram.linesOf_lines, (List.map_injective_iff.mpr injective).eq_iff,
    List.append_cancel_right_eq, List.append_cancel_left_eq, drawn, List.map_append]
  constructor
  · rintro ⟨lines, count⟩
    have parts := List.append_inj lines (by rw [List.length_map, Diagram.length_nodesOf, count])
    exact ⟨parts.1.symm, parts.2.symm⟩
  · rintro ⟨rfl, rfl⟩
    exact ⟨rfl, by rw [List.length_map, Diagram.length_nodesOf]⟩

theorem declaresNodes_iff :
    (∀ line ∈ (Diagram.nodesOf mode schema.screens).map Diagram.lineOf,
      Diagram.DeclaresNode line) ↔ schema.Unreserved := by
  rw [List.forall_mem_map, Unreserved]
  exact Diagram.forall_mem_nodesOf_iff fun _ _ _ => Diagram.declaresNode_iff

theorem Unreserved.free_of_mem_routing (free : schema.Unreserved) {step : Text × Text}
    (member : step ∈ schema.routing) : ¬ Dot.Reserved step.1 ∧ ¬ Dot.Reserved step.2 := by
  rcases exists_of_mem_routing member with ⟨⟨source, there, from_⟩, ⟨target, behind, to_⟩⟩
  exact ⟨from_ ▸ free source there, to_ ▸ free target behind⟩

theorem declared_iff (made : schema.diagram mode = .ok text) :
    schema.Declared text ↔ schema.Unreserved := by
  have drawable := diagram_succeeds_iff.mp ⟨text, made⟩
  constructor
  · rintro ⟨nodes, edges, declared⟩
    have parts := (declaredBy_lines_iff drawable made).mp ⟨declared.lines, declared.screens⟩
    exact declaresNodes_iff.mp (parts.1 ▸ declared.nodes)
  · intro free
    rcases (declaredBy_lines_iff drawable made).mpr ⟨rfl, rfl⟩ with ⟨lines, count⟩
    refine ⟨_, _, lines, count, by simp, declaresNodes_iff.mpr free, ?_⟩
    simp only [List.forall_mem_map]
    exact fun step member => Diagram.declaresEdge_iff.mpr (free.free_of_mem_routing member)

theorem graph_of_unreserved (made : schema.diagram mode = .ok text) (free : schema.Unreserved) :
    Dot.Graph "flow" (Diagram.prelude ++ (schema.drawn mode).map Diagram.declaration) text := by
  rw [diagram_eq (diagram_succeeds_iff.mp ⟨text, made⟩)] at made
  rw [← Except.ok.inj made]
  refine Diagram.graph_textOf ?_
  rw [drawn, List.forall_mem_append, List.forall_mem_map]
  constructor
  · exact (Diagram.forall_mem_nodesOf_iff fun _ _ _ => List.forall_mem_singleton).mpr free
  · intro step member
    have steps := free.free_of_mem_routing member
    exact List.forall_mem_cons.mpr ⟨steps.1, List.forall_mem_singleton.mpr steps.2⟩

/-- The token of an id is a name of the language, a word or a quoted text, unless the id is a
reserved word, and the names tell the ids apart. Every line for a screen declares a node and every
line for a step an edge unless a screen has a reserved word for an id, and then the whole diagram is
the graph of its screens and steps. -/
theorem declared_iff_unreserved (made : schema.diagram mode = .ok text) :
    (∀ id, Diagram.Stands (Diagram.idToken id) id ↔ ¬ Dot.Reserved id) ∧
      Function.Injective Diagram.nameOf ∧
      (schema.Declared text ↔ schema.Unreserved) ∧
      (schema.Unreserved →
        Dot.Graph "flow" (Diagram.prelude ++ (schema.drawn mode).map Diagram.declaration) text) :=
  ⟨Diagram.stands_iff, Diagram.nameOf_injective, declared_iff made, graph_of_unreserved made⟩

def oddities : Schema := ⟨[
  ⟨"step-1", .text "One", [.input .input (.text "q") .null .null]⟩, ⟨"2nd", .null, []⟩,
  ⟨"", .null, []⟩, ⟨"½é", .null, []⟩, ⟨"nodes", .null, []⟩, ⟨"\"\\\n", .null, []⟩,
  ⟨"_", .null, []⟩]⟩

theorem oddities_declared : ∃ text, oddities.diagram .detailed = .ok text ∧
    oddities.Declared text ∧ Dot.Graph "flow"
      (Diagram.prelude ++ (oddities.drawn .detailed).map Diagram.declaration) text := by
  have draws : (oddities.diagram .detailed).toOption.isSome = true := by decide +kernel
  have free : oddities.Unreserved := by
    rw [Unreserved]
    decide +kernel
  cases made : oddities.diagram .detailed with
  | ok text =>
      have declared := declared_iff_unreserved made
      exact ⟨text, rfl, declared.2.2.1.mpr free, declared.2.2.2 free⟩
  | error fault =>
      rw [made] at draws
      cases draws

def stray : Schema := ⟨[⟨"node", .null, []⟩, ⟨"b", .null, []⟩]⟩

theorem stray_not_declared : ¬ Diagram.Stands (Diagram.idToken "node") "node" ∧
    ∃ text, stray.diagram .simple = .ok text ∧ ¬ stray.Declared text ∧
      (Diagram.linesOf text)[3]? = some (Text.ofString "  node [label=\"node\"];").toList ∧
      Dot.States (.defaults .node [("label", "node")]) "  node [label=\"node\"];" := by
  have reserved : Dot.Reserved "node" := by decide +kernel
  have drawable : ∀ screen ∈ stray.screens, screen.Drawable .simple := by
    intro screen member
    refine ⟨fun given => ?_, nofun⟩
    simp only [stray, List.mem_cons, List.not_mem_nil, or_false] at member
    rcases member with rfl | rfl <;> cases given
  have line : "  node [label=\"node\"];" = Diagram.lineOf (.node "node" "node" false) := by
    decide +kernel
  have tokens : Diagram.tokensOf (.node "node" "node" false) = .keyword .node :: .mark '[' ::
      .name "label" :: .mark '=' :: .name "node" :: Diagram.closingTokens false := by
    decide +kernel
  refine ⟨fun stands => (Diagram.stands_iff "node").mp stands reserved, _, diagram_eq drawable,
    fun declared => ?_, ?_, ?_⟩
  · exact (declared_iff (diagram_eq drawable)).mp declared ⟨"node", .null, []⟩ (by simp [stray])
      reserved
  · rw [Diagram.linesOf_lines]
    decide +kernel
  · rw [line, Diagram.states_lineOf_iff, tokens]
    exact .defaults (by simp) (by simp) (Diagram.attributes_closing "node" false)

end Schema

end ScreenFlow
