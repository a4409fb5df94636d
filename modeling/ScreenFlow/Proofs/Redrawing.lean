import ScreenFlow.Proofs.Drawing
import ScreenFlow.Proofs.Route

namespace ScreenFlow

/-! Diagrams are read back. Every line of a diagram is one statement, whatever points the ids,
titles and names of a form hold: a quote, a backslash or a line feed between quotes is written as an
escape that a reader undoes, and an id without quotes holds nothing that could end it. -/

open Outcome

namespace Diagram

/-! ## Reading -/

/-- The content of a quoted token up to the next quote that is not escaped, and what follows. -/
def readQuoted : List Point → Option (List Point × List Point)
  | [] => none
  | .char '"' :: rest => some ([], rest)
  | .char '\\' :: .char '\\' :: rest => (readQuoted rest).map (Prod.map (.char '\\' :: ·) id)
  | .char '\\' :: .char '"' :: rest => (readQuoted rest).map (Prod.map (.char '"' :: ·) id)
  | .char '\\' :: .char 'n' :: rest => (readQuoted rest).map (Prod.map (.char '\n' :: ·) id)
  | point :: rest => (readQuoted rest).map (Prod.map (point :: ·) id)

def inBare (point : Point) : Bool := point ≠ ' ' && point ≠ ';'

/-- The text of a token and what follows it. A token without quotes runs to the next blank or
semicolon. -/
def readToken : List Point → Option (Text × List Point)
  | .char '"' :: rest => (readQuoted rest).map (Prod.map Text.ofList id)
  | text => some (Text.ofList (text.takeWhile inBare), text.dropWhile inBare)

/-- What a line of a diagram states: a node with its label, which may be set apart as the last one,
or an edge. -/
inductive Statement where
  | node (id label : Text) (terminal : Bool)
  | edge (source target : Text)
  deriving DecidableEq, Repr

def readNode (id : Text) (text : List Point) : Option Statement := do
  let (label, rest) ← readToken (← text.dropPrefix? (Text.ofString " [label=").toList)
  if rest = (Text.ofString "];").toList then return .node id label false
  else if rest = (Text.ofString ", shape=doubleoctagon, fillcolor=lightgreen];").toList then
    return .node id label true
  else none

def readEdge (source : Text) (text : List Point) : Option Statement := do
  let (target, rest) ← readToken (← text.dropPrefix? (Text.ofString " -> ").toList)
  if rest = [.char ';'] then return .edge source target else none

def readStatement (line : List Point) : Option Statement := do
  let (id, rest) ← readToken (← line.dropPrefix? (Text.ofString "  ").toList)
  readNode id rest <|> readEdge id rest

/-- The lines of a text between line feeds. -/
def linesOf (text : Text) : List (List Point) := text.toList.splitOn (.char '\n')

def opening : List Text :=
  ["digraph flow \x7b", "  rankdir=LR;",
    "  node [shape=box, style=filled, fillcolor=lightblue];"]

/-- The statements between the opening of a diagram and its closing brace. -/
def read? (text : Text) : Option (List Statement) := do
  let rest ← (linesOf text).dropPrefix? (opening.map Text.toList)
  if rest.getLast? = some [.char '\x7d'] then rest.dropLast.mapM readStatement else none

/-! ## Tokens -/

theorem readQuoted_plain {point : Point} (noQuote : point ≠ '"')
    (noEscape : point ≠ '\\') (rest : List Point) :
    readQuoted (point :: rest) = (readQuoted rest).map (Prod.map (point :: ·) id) := by
  rw [readQuoted.eq_def]
  split <;> simp_all

theorem readQuoted_escapePoint (point : Point) (rest : List Point) :
    readQuoted (escapePoint point ++ rest) =
      (readQuoted rest).map (Prod.map (point :: ·) id) := by
  by_cases backslash : point = '\\'
  · subst backslash
    rfl
  by_cases quoted : point = '"'
  · subst quoted
    rfl
  by_cases feed : point = '\n'
  · subst feed
    rfl
  have plain : escapePoint point = [point] := by simp [escapePoint, backslash, quoted, feed]
  rw [plain]
  exact readQuoted_plain quoted backslash rest

theorem readQuoted_escaped (content rest : List Point) :
    readQuoted (content.flatMap escapePoint ++ .char '"' :: rest) = some (content, rest) := by
  induction content with
  | nil => rfl
  | cons point content induction =>
      rw [List.flatMap_cons, List.append_assoc, readQuoted_escapePoint, induction]
      rfl

theorem readToken_quote (text : Text) (rest : List Point) :
    readToken ((quote text).toList ++ rest) = some (text, rest) := by
  have quoted : (quote text).toList ++ rest =
      .char '"' :: (text.toList.flatMap escapePoint ++ .char '"' :: rest) := by
    simp [quote, Text.toList_ofList]
  rw [quoted, readToken, readQuoted_escaped]
  simp

theorem toList_quote (text : Text) :
    (quote text).toList = .char '"' :: (text.toList.flatMap escapePoint ++ [.char '"']) := by
  rw [quote, Text.toList_ofList]

theorem mem_of_isBare {id : Text} (bare : isBare id = true) {point : Point}
    (member : point ∈ id.toList) : point = '_' ∨ Text.isAlphanumeric point = true := by
  rw [isBare, Bool.and_eq_true, Bool.and_eq_true, List.all_eq_true] at bare
  by_cases underscore : point = '_'
  · exact .inl underscore
  · exact .inr (bare.2 point (List.mem_filter.mpr ⟨member, by simpa using underscore⟩))

theorem not_mem_of_isBare {id : Text} (bare : isBare id = true) {point : Point}
    (other : point ≠ '_') (marks : Text.isAlphanumeric point = false) :
    point ∉ id.toList := by
  intro member
  rcases mem_of_isBare bare member with same | letter
  · exact other same
  · rw [marks] at letter
    cases letter

theorem readToken_idToken (id : Text) {rest : List Point}
    (ends : rest.head?.any inBare = false) :
    readToken ((idToken id).toList ++ rest) = some (id, rest) := by
  by_cases bare : isBare id = true
  · have inside : ∀ point ∈ id.toList, inBare point = true := by
      intro point member
      rw [inBare, Bool.and_eq_true, decide_eq_true_iff, decide_eq_true_iff]
      constructor
      · rintro rfl
        exact not_mem_of_isBare bare (by decide) (by decide) member
      · rintro rfl
        exact not_mem_of_isBare bare (by decide) (by decide) member
    have unquoted : ∀ text, id.toList ++ rest ≠ .char '"' :: text := by
      intro text same
      cases letters : id.toList with
      | nil => simp [isBare, letters] at bare
      | cons first others =>
          have quoteless : .char '"' ∉ id.toList := not_mem_of_isBare bare (by decide) (by decide)
          rw [letters, List.cons_append] at same
          rw [letters, (List.cons.inj same).1] at quoteless
          exact quoteless List.mem_cons_self
    rw [idToken, if_pos bare, readToken.eq_def]
    split
    · next text same => exact absurd same (unquoted text)
    · rw [List.takeWhile_append_of_pos inside, List.dropWhile_append_of_pos inside]
      cases rest with
      | nil => simp
      | cons point rest =>
          have stops : inBare point = false := ends
          simp [stops]
  · rw [idToken, if_neg bare]
    exact readToken_quote id rest

/-! ## Lines -/

theorem feed_not_mem_escapePoint (point : Point) : .char '\n' ∉ escapePoint point := by
  rw [escapePoint]
  split_ifs with backslash quoted feed
  · decide
  · decide
  · decide
  · simpa using Ne.symm feed

theorem feed_not_mem_quote (text : Text) : .char '\n' ∉ (quote text).toList := by
  simp [toList_quote, feed_not_mem_escapePoint]

theorem feed_not_mem_idToken (id : Text) : .char '\n' ∉ (idToken id).toList := by
  by_cases bare : isBare id = true
  · rw [idToken, if_pos bare]
    exact not_mem_of_isBare bare (by decide) (by decide)
  · rw [idToken, if_neg bare]
    exact feed_not_mem_quote id

structure States (line : Text) (statement : Statement) : Prop where
  whole : .char '\n' ∉ line.toList
  read : readStatement line.toList = some statement

theorem states_edge (source target : Text) :
    States (edge source target) (.edge source target) := by
  have line : (edge source target).toList =
      (Text.ofString "  ").toList ++ ((idToken source).toList ++
        ((Text.ofString " -> ").toList ++ ((idToken target).toList ++ [.char ';']))) := by
    simp [edge, Text.toList_ofString]
  constructor
  · simp [line, feed_not_mem_idToken]
  · rw [readStatement, line, List.dropPrefix?_append_of_beq _ (by decide), Option.bind_eq_bind,
      Option.bind_some, readToken_idToken source rfl, Option.bind_eq_bind, Option.bind_some]
    have target_read : readEdge source ((Text.ofString " -> ").toList ++
        ((idToken target).toList ++ [.char ';'])) = some (.edge source target) := by
      rw [readEdge, List.dropPrefix?_append_of_beq _ (by decide), Option.bind_eq_bind,
        Option.bind_some, readToken_idToken target rfl]
      rfl
    -- What follows the source is no attribute.
    exact target_read

def closing (last : Bool) : Text :=
  (if last then ", shape=doubleoctagon, fillcolor=lightgreen" else "") ++ "];"

theorem readNode_closing (id shown : Text) (last : Bool) :
    readNode id ((Text.ofString " [label=").toList ++
      ((quote shown).toList ++ (closing last).toList)) = some (.node id shown last) := by
  rw [readNode, List.dropPrefix?_append_of_beq _ (by decide), Option.bind_eq_bind,
    Option.bind_some, readToken_quote, Option.bind_eq_bind, Option.bind_some]
  cases last with
  | false => exact if_pos (by decide)
  | true =>
      have marked : (closing true).toList =
          (Text.ofString ", shape=doubleoctagon, fillcolor=lightgreen];").toList := by
        decide +kernel
      have longer : (closing true).toList ≠ (Text.ofString "];").toList := by decide +kernel
      exact (if_neg longer).trans (if_pos marked)

theorem quoteValue_text (text : Text) : quoteValue (.text text) = .ok (quote text) := by
  by_cases empty : text = ""
  · subst empty
    rfl
  · simp [quoteValue, Value.isGiven, empty]

theorem states_node {screen : Screen} {mode : DiagramMode} {shown : Text} (last : Bool)
    (labelled : label mode screen = .ok (.text shown)) :
    ∃ line, node mode last screen = .ok line ∧ States line (.node screen.id shown last) := by
  rw [node_eq, labelled, ok_bind, quoteValue_text]
  refine ⟨_, rfl, ?_⟩
  have line : ("  " ++ idToken screen.id ++ " [" ++ ("label=" ++ quote shown ++
      if last then ", shape=doubleoctagon, fillcolor=lightgreen" else "") ++ "];").toList =
        (Text.ofString "  ").toList ++ ((idToken screen.id).toList ++
          ((Text.ofString " [label=").toList ++
            ((quote shown).toList ++ (closing last).toList))) := by
    simp [closing, Text.toList_ofString]
  constructor
  · cases last <;> simp [feed_not_mem_idToken, feed_not_mem_quote]
  · rw [readStatement, line, List.dropPrefix?_append_of_beq _ (by decide), Option.bind_eq_bind,
      Option.bind_some, readToken_idToken screen.id rfl, Option.bind_eq_bind, Option.bind_some]
    dsimp only
    rw [readNode_closing]
    rfl

/-! ## Labels -/

end Diagram

namespace Screen

def headline (screen : Screen) : Text :=
  match screen.title with
  | .text title => if title = "" then screen.id else title
  | _ => screen.id

def fieldKeys (screen : Screen) : List Text := screen.placed.filterMap Placed.key?

/-- What is written into the node of the screen: its headline, and in a detailed diagram the keys of
its fields below it, one on each line. -/
def caption (mode : DiagramMode) (screen : Screen) : Text :=
  match mode with
  | .simple => screen.headline
  | .detailed => Text.intercalate "\n" (screen.headline :: screen.fieldKeys)

variable {screen : Screen} {mode : DiagramMode}

theorem Drawable.heading_eq (drawable : screen.Drawable mode) :
    Diagram.heading screen = .text screen.headline := by
  rw [Diagram.heading, headline]
  cases given : screen.title.isGiven with
  | true =>
      rcases drawable.titled given with ⟨title, same⟩
      have filled : title ≠ "" := by simpa [same, Value.isGiven] using given
      simp [same, filled]
  | false =>
      rw [if_neg (by simp)]
      cases same : screen.title with
      | text title =>
          have empty : title = "" := by simpa [same, Value.isGiven] using given
          simp [empty]
      | _ => rfl

theorem Drawable.label_eq (drawable : screen.Drawable mode) :
    Diagram.label mode screen = .ok (.text (screen.caption mode)) := by
  cases mode with
  | simple => rw [Diagram.label_simple, drawable.heading_eq, caption]
  | detailed =>
      have listed : Diagram.fields screen = .ok screen.fieldKeys :=
        Diagram.fields_eq_ok_iff.mpr ⟨drawable.keyed rfl, by
          rw [keys_keyed, List.flatMap_singleton, fieldKeys]⟩
      rw [Diagram.label_detailed, listed, ok_bind, Diagram.listing, drawable.heading_eq, caption]
      cases screen.fieldKeys with
      | nil => rfl
      | cons key keys => rw [Text.intercalate_cons_cons]; rfl

end Screen

/-! ## Diagrams -/

namespace Diagram

variable {mode : DiagramMode} {screens : List Screen}

def nodesOf (mode : DiagramMode) (screens : List Screen) : List Statement :=
  screens.dropLast.map (fun screen => .node screen.id (screen.caption mode) false) ++
    screens.getLast?.toList.map fun screen => .node screen.id (screen.caption mode) true

theorem nodesOf_cons (mode : DiagramMode) (screen : Screen) (rest : List Screen) :
    nodesOf mode (screen :: rest) =
      .node screen.id (screen.caption mode) rest.isEmpty :: nodesOf mode rest := by
  cases rest <;> rfl

theorem length_nodesOf (mode : DiagramMode) (screens : List Screen) :
    (nodesOf mode screens).length = screens.length := by
  induction screens with
  | nil => rfl
  | cons screen rest induction => simp [nodesOf_cons, induction]

theorem states_nodes (drawable : ∀ screen ∈ screens, screen.Drawable mode) :
    ∃ lines, nodes mode screens = .ok lines ∧ List.Forall₂ States lines (nodesOf mode screens) := by
  induction screens with
  | nil => exact ⟨[], rfl, .nil⟩
  | cons screen rest induction =>
      rw [List.forall_mem_cons] at drawable
      rcases states_node rest.isEmpty drawable.1.label_eq with ⟨line, drawn, stated⟩
      rcases induction drawable.2 with ⟨lines, others, all⟩
      refine ⟨line :: lines, ?_, ?_⟩
      · rw [nodes, drawn, ok_bind, others, ok_bind]
        rfl
      · rw [nodesOf_cons]
        exact .cons stated all

theorem states_edges (steps : List (Text × Text)) :
    List.Forall₂ States (steps.map fun step => edge step.1 step.2)
      (steps.map fun step => .edge step.1 step.2) := by
  induction steps with
  | nil => exact .nil
  | cons step steps induction => exact .cons (states_edge step.1 step.2) induction

theorem linesOf_intercalate {lines : List Text} (some_line : lines ≠ [])
    (whole : ∀ line ∈ lines, .char '\n' ∉ line.toList) :
    linesOf (Text.intercalate "\n" lines) = lines.map Text.toList := by
  rw [linesOf, Text.toList_intercalate]
  refine List.splitOn_intercalate (Point.char '\n') ?_ (by simpa using some_line)
  rw [List.forall_mem_map]
  exact whole

theorem mapM_readStatement {lines : List Text} {statements : List Statement}
    (stated : List.Forall₂ States lines statements) :
    (lines.map Text.toList).mapM readStatement = some statements := by
  induction stated with
  | nil => rfl
  | cons first _ induction =>
      rw [List.map_cons, List.mapM_cons, first.read, induction]
      rfl

theorem whole_of_states {lines : List Text} {statements : List Statement}
    (stated : List.Forall₂ States lines statements) : ∀ line ∈ lines, .char '\n' ∉ line.toList := by
  induction stated with
  | nil => simp
  | cons first _ induction => exact List.forall_mem_cons.mpr ⟨first.whole, induction⟩

def textOf (lines : List Text) : Text :=
  Text.intercalate "\n" (opening ++ lines ++ [("\x7d" : Text)])

section Texts

variable {lines : List Text} {statements : List Statement}

theorem linesOf_textOf (stated : List.Forall₂ States lines statements) :
    linesOf (textOf lines) =
      opening.map Text.toList ++ (lines.map Text.toList ++ [[.char '\x7d']]) := by
  rw [textOf, linesOf_intercalate (by simp)]
  · simp [Text.toList_ofString]
  · simp only [List.forall_mem_append]
    exact ⟨⟨by decide, whole_of_states stated⟩, by decide⟩

theorem read?_textOf (stated : List.Forall₂ States lines statements) :
    read? (textOf lines) = some statements := by
  rw [read?, linesOf_textOf stated, List.dropPrefix?_append_of_beq _ (by simp),
    Option.bind_eq_bind, Option.bind_some, List.getLast?_concat, if_pos rfl, List.dropLast_concat,
    mapM_readStatement stated]

end Texts

end Diagram

namespace Schema

variable {schema : Schema} {mode : DiagramMode}

/-- What a diagram of the form states: a node for each screen, and an edge for each step. -/
def drawn (mode : DiagramMode) (schema : Schema) : List Diagram.Statement :=
  Diagram.nodesOf mode schema.screens ++
    schema.routing.map fun step => .edge step.1 step.2

theorem length_drawn (distinct : (schema.screens.map Screen.id).Nodup) :
    (schema.drawn mode).length = schema.screens.length + (schema.screens.length - 1) := by
  simp [drawn, Diagram.length_nodesOf, routing_eq distinct, steps]

/-- The lines of a diagram are its opening, one statement for each screen and each step, and a
closing brace; and what they state is read back from them. -/
theorem read_of_diagram (distinct : (schema.screens.map Screen.id).Nodup)
    (drawable : ∀ screen ∈ schema.screens, screen.Drawable mode) :
    ∃ text, schema.diagram mode = .ok text ∧
      (Diagram.linesOf text).length =
        3 + schema.screens.length + (schema.screens.length - 1) + 1 ∧
      Diagram.read? text = some (schema.drawn mode) := by
  rcases Diagram.states_nodes drawable with ⟨lines, drawn, nodes⟩
  have stated : List.Forall₂ Diagram.States (lines ++ _) (schema.drawn mode) :=
    List.rel_append nodes (Diagram.states_edges schema.routing)
  refine ⟨_, ?_, ?_, Diagram.read?_textOf stated⟩
  · rw [diagram, diagramLines, drawn]
    rfl
  · have count := stated.length_eq
    rw [length_drawn distinct] at count
    rw [Diagram.linesOf_textOf stated, List.length_append, List.length_append, List.length_map,
      List.length_map, count]
    simp only [Diagram.opening, List.length_cons, List.length_nil]
    omega

def unruly : Schema := ⟨[
  ⟨"a \"b\\", .text "x\n\"];\\", [.input .input (.text "q\"\n;") .null .null]⟩,
  ⟨"_1", .null, [.static .text (.text "t") .null]⟩,
  ⟨"", .text "-> \\n", []⟩]⟩

theorem unruly_read : ∃ text, unruly.diagram .detailed = .ok text ∧
    (Diagram.linesOf text).length = 9 ∧
    Diagram.read? text = some [
      .node "a \"b\\" "x\n\"];\\\na \"b\\_q\"_;_0" false, .node "_1" "_1" false,
      .node "" "-> \\n" true, .edge "a \"b\\" "_1", .edge "_1" ""] := by
  have drawn : unruly.drawn .detailed = [
      .node "a \"b\\" "x\n\"];\\\na \"b\\_q\"_;_0" false, .node "_1" "_1" false,
      .node "" "-> \\n" true, .edge "a \"b\\" "_1", .edge "_1" ""] := by decide +kernel
  rw [← drawn]
  have draws : (unruly.diagram .detailed).toOption.isSome = true := by decide +kernel
  refine read_of_diagram (by decide) (diagram_succeeds_iff.mp ?_)
  cases outcome : unruly.diagram .detailed with
  | ok text => exact ⟨text, rfl⟩
  | error fault =>
      rw [outcome] at draws
      cases draws

end Schema

end ScreenFlow
