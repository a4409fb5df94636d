import ScreenFlow.Text

namespace ScreenFlow.Dot

/-! The DOT language, as far as a diagram needs it. A text is cut into names, reserved words and
marks, and a directed graph is a list of statements between braces. Numerals, markup between angle
brackets, comments, ports and subgraphs are left out: a text with one of them is not read at all. -/

/-! ## Words -/

inductive Keyword where
  | node
  | edge
  | graph
  | digraph
  | subgraph
  | strict
  deriving DecidableEq, Repr

def lowered : Point → Point
  | .char letter => letter.toLower
  | .surrogate index => .surrogate index

namespace Keyword

def word : Keyword → Text
  | .node => "node"
  | .edge => "edge"
  | .graph => "graph"
  | .digraph => "digraph"
  | .subgraph => "subgraph"
  | .strict => "strict"

def ofText? (text : List Point) : Option Keyword :=
  [.node, .edge, .graph, .digraph, .subgraph, .strict].find? fun keyword =>
    keyword.word.toList = text.map lowered

theorem ofText?_eq_some_iff {text : List Point} {keyword : Keyword} :
    ofText? text = some keyword ↔ text.map lowered = keyword.word.toList := by
  constructor
  · intro found
    simpa [eq_comm] using List.find?_some found
  · intro same
    rw [ofText?, same]
    cases keyword <;> rfl

end Keyword

/-- The text is a reserved word, whatever the case of its letters. -/
def Reserved (text : Text) : Prop :=
  ∃ keyword : Keyword, text.toList.map lowered = keyword.word.toList

theorem reserved_iff {text : Text} :
    Reserved text ↔ (Keyword.ofText? text.toList).isSome = true := by
  simp only [Reserved, Option.isSome_iff_exists, Keyword.ofText?_eq_some_iff]

instance (text : Text) : Decidable (Reserved text) := decidable_of_iff _ reserved_iff.symm

def isLetter (point : Point) : Bool :=
  point.any Char.isAlpha || point = '_' || 0x80 ≤ point.toNat

def isPart (point : Point) : Bool := isLetter point || point.isDigit

/-- The text is a word: a letter, and letters and digits after it. -/
structure Identifier (text : Text) : Prop where
  first : text.toList.head?.any isLetter = true
  parts : ∀ point ∈ text.toList, isPart point = true

/-! ## Tokens -/

inductive Token where
  | name (text : Text)
  | keyword (keyword : Keyword)
  | mark (point : Point)
  | arrow
  deriving DecidableEq, Repr

def Token.ofWord (letters : List Point) : Token :=
  match Keyword.ofText? letters with
  | some reserved => .keyword reserved
  | none => .name (Text.ofList letters)

/-- Where a reader stands: between tokens, or inside one with the points so far. -/
inductive Mode where
  | between
  | word (letters : List Point)
  | dash
  | quoted (content : List Point)
  | escape (content : List Point)
  deriving DecidableEq, Repr

def isSpace (point : Point) : Bool := ([' ', '\t', '\n', '\r'] : List Point).contains point

def isMark (point : Point) : Bool :=
  (['\x7b', '\x7d', '[', ']', '=', ',', ';'] : List Point).contains point

def begin? (point : Point) : Option (List Token × Mode) :=
  if isSpace point then some ([], .between)
  else if isMark point then some ([.mark point], .between)
  else if isLetter point then some ([], .word [point])
  else if point = '"' then some ([], .quoted [])
  else if point = '-' then some ([], .dash)
  else none

/-- What a point does. Between quotes a backslash belongs to the point after it, and only
the one before a quote is dropped. -/
def step? : Mode → Point → Option (List Token × Mode)
  | .between, point => begin? point
  | .word letters, point =>
      if isPart point then some ([], .word (letters ++ [point]))
      else (begin? point).map (Prod.map (Token.ofWord letters :: ·) id)
  | .dash, point => if point = '>' then some ([.arrow], .between) else none
  | .quoted content, point =>
      if point = '"' then some ([.name (Text.ofList content)], .between)
      else if point = '\\' then some ([], .escape content)
      else if point = '\n' then none
      else some ([], .quoted (content ++ [point]))
  | .escape content, point =>
      if point = '"' then some ([], .quoted (content ++ [.char '"']))
      else if point = '\n' then none
      else some ([], .quoted (content ++ [.char '\\', point]))

def run? : Mode → List Point → Option (List Token × Mode)
  | mode, [] => some ([], mode)
  | mode, point :: rest => do
      let (first, next) ← step? mode point
      let (others, last) ← run? next rest
      return (first ++ others, last)

def finish? : Mode → Option (List Token)
  | .between => some []
  | .word letters => some [Token.ofWord letters]
  | _ => none

def tokens? (text : Text) : Option (List Token) := do
  let (tokens, mode) ← run? .between text.toList
  return tokens ++ (← finish? mode)

/-! ## Grammar -/

inductive Statement where
  | node (name : Text) (attributes : List (Text × Text))
  | edge (source target : Text) (attributes : List (Text × Text))
  | defaults (kind : Keyword) (attributes : List (Text × Text))
  | setting (name value : Text)
  deriving DecidableEq, Repr

inductive Assignments : List (Text × Text) → List Token → Prop
  | none : Assignments [] []
  | more {name value : Text} {others tokens} (separator : List Token)
      (separated : separator ∈ [[], [.mark ','], [.mark ';']]) (rest : Assignments others tokens) :
      Assignments ((name, value) :: others)
        (.name name :: .mark '=' :: .name value :: (separator ++ tokens))

inductive Attributes : List (Text × Text) → List Token → Prop
  | none : Attributes [] []
  | more {inner others inside tokens} (listed : Assignments inner inside)
      (rest : Attributes others tokens) :
      Attributes (inner ++ others) (.mark '[' :: (inside ++ .mark ']' :: tokens))

inductive Forms : Statement → List Token → Prop
  | node {name attributes tokens} (listed : Attributes attributes tokens) :
      Forms (.node name attributes) (.name name :: tokens)
  | edge {source target attributes tokens} (listed : Attributes attributes tokens) :
      Forms (.edge source target attributes) (.name source :: .arrow :: .name target :: tokens)
  | defaults {kind attributes tokens} (kinds : kind ∈ [.node, .edge, .graph])
      (filled : tokens ≠ []) (listed : Attributes attributes tokens) :
      Forms (.defaults kind attributes) (.keyword kind :: tokens)
  | setting (name value) : Forms (.setting name value) [.name name, .mark '=', .name value]

inductive Body : List Statement → List Token → Prop
  | none : Body [] []
  | more {statement others tokens rest} (formed : Forms statement tokens)
      (separator : List Token) (separated : separator ∈ [[], [.mark ';']])
      (body : Body others rest) :
      Body (statement :: others) (tokens ++ (separator ++ rest))

/-- The text is a directed graph with a name and statements. -/
def Graph (name : Text) (statements : List Statement) (text : Text) : Prop :=
  ∃ tokens, Body statements tokens ∧ tokens? text =
    some (.keyword .digraph :: .name name :: .mark '\x7b' :: (tokens ++ [.mark '\x7d']))

def States (statement : Statement) (text : Text) : Prop :=
  ∃ tokens, Forms statement tokens ∧ tokens? text = some (tokens ++ [.mark ';'])

/-! ## Reading -/

section Reading

variable {mode next last : Mode} {front back : List Point} {tokens others : List Token}

theorem run?_cons {point : Point} : run? mode (point :: back) = some (tokens, last) ↔
    ∃ first next others, step? mode point = some (first, next) ∧
      run? next back = some (others, last) ∧ first ++ others = tokens := by
  simp [run?, Option.bind_eq_some_iff]

theorem run?_append (before : run? mode front = some (tokens, next))
    (after : run? next back = some (others, last)) :
    run? mode (front ++ back) = some (tokens ++ others, last) := by
  induction front generalizing mode tokens with
  | nil =>
      rcases Prod.mk.inj (Option.some.inj before) with ⟨rfl, rfl⟩
      exact after
  | cons point front induction =>
      rcases run?_cons.mp before with ⟨first, middle, inner, stepped, ran, rfl⟩
      rw [List.cons_append, List.append_assoc]
      exact run?_cons.mpr ⟨first, middle, inner ++ others, stepped, induction ran, rfl⟩

theorem run?_singleton {point : Point} (stepped : step? mode point = some (tokens, next)) :
    run? mode [point] = some (tokens, next) :=
  run?_cons.mpr ⟨tokens, next, [], stepped, rfl, List.append_nil tokens⟩

theorem begin?_of_isLetter {point : Point} (letter : isLetter point = true) :
    begin? point = some ([], .word [point]) := by
  have unlike {marks : List Point} (others : marks.any isLetter = false) :
      ¬ marks.contains point = true := by
    intro member
    rw [List.any_eq_true.mpr ⟨point, List.contains_iff_mem.mp member, letter⟩] at others
    cases others
  rw [begin?, isSpace, isMark, if_neg (unlike rfl), if_neg (unlike rfl), if_pos letter]

theorem tokens?_of_run {text : Text}
    (read : run? .between text.toList = some (tokens, .between)) : tokens? text = some tokens := by
  simp [tokens?, read, finish?]

theorem run?_word {letters : List Point} (parts : ∀ point ∈ letters, isPart point = true)
    (front : List Point) : run? (.word front) letters = some ([], .word (front ++ letters)) := by
  induction letters generalizing front with
  | nil => simp [run?]
  | cons letter letters induction =>
      rw [List.forall_mem_cons] at parts
      simp [run?, step?, parts.1, induction parts.2]

end Reading

end ScreenFlow.Dot
