import ScreenFlow.Ordered
import ScreenFlow.Text.Blank
import ScreenFlow.Text.Newline

namespace ScreenFlow.Dotenv

/-! Variables in a settings file: one definition a line, `NAME=value`. A value may stand between
quotes, comments begin with a hash sign, and values may refer to variables. A line that is no
definition is skipped. -/

/-! ## Lines -/

def isGap (character : Char) : Bool := Text.isBlank character && character ≠ '\n'

def skipGap (text : List Char) : List Char := text.dropWhile isGap

def afterLine (text : List Char) : List Char := (text.dropWhile (· ≠ '\n')).drop 1

def skipExport (text : List Char) : List Char :=
  let word := "export".toList
  if word.isPrefixOf text && (text[word.length]?).any isGap then skipGap (text.drop word.length)
  else text

/-! ## Quotes -/

/-- A text between quotes, after the opening one, and what follows the closing one. A backslash
belongs together with the character after it, which may not end the line. -/
def quoted? (quote : Char) : List Char → Option (List Char × List Char)
  | [] => none
  | ['\\'] => none
  | '\\' :: character :: rest =>
      if character = '\n' then none
      else
        (quoted? quote rest).map fun (content, rest) => ('\\' :: character :: content, rest)
  | character :: rest =>
      if character = quote then some ([], rest)
      else (quoted? quote rest).map fun (content, rest) => (character :: content, rest)

def escapes : List (Char × Char) :=
  [('\\', '\\'), ('\'', '\''), ('"', '"'), ('a', '\x07'), ('b', '\x08'), ('f', '\x0c'),
    ('n', '\n'), ('r', '\r'), ('t', '\t'), ('v', '\x0b')]

def unescape (table : List (Char × Char)) : List Char → List Char
  | '\\' :: letter :: rest =>
      match table.find? fun entry => entry.1 == letter with
      | some (_, meant) => meant :: unescape table rest
      | none => '\\' :: unescape table (letter :: rest)
  | character :: rest => character :: unescape table rest
  | [] => []

/-! ## Definitions -/

/-- A value without quotes: a comment after white space and white space at the end do not belong to
it. -/
def bare (line : List Char) : List Char :=
  ((uncommented line).reverse.dropWhile fun character : Char => Text.isBlank character).reverse
where
  uncommented : List Char → List Char
    | [] => []
    | character :: rest =>
        if Text.isBlank character && (skipGap rest).head? = some '#' then []
        else character :: uncommented rest

/-- A result with the text after it, or the text at the place where a line stops making sense. -/
abbrev Reading (α : Type) := Except (List Char) (α × List Char)

def readOr (text : List Char) : Option (α × List Char) → Reading α
  | some result => .ok result
  | none => .error text

def readValue (text : List Char) : Reading (List Char) :=
  match text with
  | '\'' :: rest =>
      (readOr text (quoted? '\'' rest)).map fun (content, rest) =>
        (unescape (escapes.take 2) content, rest)
  | '"' :: rest =>
      (readOr text (quoted? '"' rest)).map fun (content, rest) => (unescape escapes content, rest)
  | text => .ok (bare (text.takeWhile (· ≠ '\n')), text.dropWhile (· ≠ '\n'))

def readName (text : List Char) : Reading (Option (List Char)) :=
  match text with
  | '#' :: _ => .ok (none, text)
  | '\'' :: rest =>
      let name := rest.takeWhile (· ≠ '\'')
      match rest.dropWhile (· ≠ '\'') with
      | _ :: rest => if name.isEmpty then .error text else .ok (some name, rest)
      | [] => .error text
  | text =>
      let inName (character : Char) : Bool :=
        character ≠ '=' && character ≠ '#' && !Text.isBlank character
      let name := text.takeWhile inName
      if name.isEmpty then .error text else .ok (some name, text.dropWhile inName)

def readEnd (text : List Char) : Reading Unit :=
  let rest := match skipGap text with
    | '#' :: rest => rest.dropWhile (· ≠ '\n')
    | rest => rest
  match rest with
  | [] => .ok ((), [])
  | '\n' :: rest => .ok ((), rest)
  | _ => .error text

/-- A definition: a name and, unless the name stands alone, a value. -/
abbrev Definition := String × Option String

def readLine (text : List Char) : Except (List Char) (Option Definition × List Char) := do
  let (name, rest) ← readName (skipExport text)
  let (value, rest) ←
    match skipGap rest with
    | '=' :: rest => (readValue (skipGap rest)).map fun (value, rest) => (some value, rest)
    | rest => .ok (none, rest)
  let (_, rest) ← readEnd rest
  return (name.map fun name => (String.ofList name, value.map String.ofList), rest)

/-- What a statement is: a definition, nothing, or no sense at all. Of the latter the line is told
that follows the statement before it. -/
inductive Statement where
  | defines (definition : Definition)
  | comment
  | senseless (line : Nat)
  deriving DecidableEq, Repr

/-- The statements of a text in order. Each one takes one unit of `fuel`, and `line` is the number of
the line that the text begins with. -/
def readStatements : Nat → Nat → List Char → List Statement
  | 0, _, _ => []
  | fuel + 1, line, text =>
      let start := text.dropWhile fun character : Char => Text.isBlank character
      if start.isEmpty then []
      else
        let (statement, rest) :=
          match readLine start with
          | .ok (some definition, rest) => (Statement.defines definition, rest)
          | .ok (none, rest) => (.comment, rest)
          | .error rest => (.senseless line, afterLine rest)
        statement :: readStatements fuel (line + text.count '\n' - rest.count '\n') rest

def statements (text : String) : List Statement :=
  let characters := Text.unifyNewlines text.toList
  readStatements (characters.length + 1) 1 characters

def Statement.definition? : Statement → Option Definition
  | .defines definition => some definition
  | _ => none

def Statement.senselessLine? : Statement → Option Nat
  | .senseless line => some line
  | _ => none

/-! ## References -/

/-- A reference to a variable at the head of a text, after `$`: its name, the text for its absence,
and what follows it. -/
def reference? : List Char → Option (List Char × List Char × List Char)
  | '\x7b' :: text =>
      let inName (character : Char) : Bool := character ≠ '\x7d' && character ≠ ':'
      let name := text.takeWhile inName
      match text.dropWhile inName with
      | '\x7d' :: rest => some (name, [], rest)
      | ':' :: '-' :: rest =>
          match rest.dropWhile (· ≠ '\x7d') with
          | _ :: after => some (name, rest.takeWhile (· ≠ '\x7d'), after)
          | [] => none
      | _ => none
  | _ => none

def expandText (lookup? : String → Option String) : Nat → List Char → List Char
  | 0, text => text
  | _, [] => []
  | fuel + 1, '$' :: text =>
      match reference? text with
      | some (name, absent, rest) =>
          ((lookup? (String.ofList name)).map String.toList).getD absent ++
            expandText lookup? fuel rest
      | none => '$' :: expandText lookup? fuel text
  | fuel + 1, character :: text => character :: expandText lookup? fuel text

/-- Definitions with the references in their values replaced. Earlier definitions come before the
variables of the environment, and a name that stands alone is an empty text. -/
def expand (environment : List (String × String)) :
    List (String × Option String) → List Definition → List (String × Option String)
  | known, [] => known
  | known, (name, value) :: definitions =>
      let lookup? (name : String) : Option String :=
        match Ordered.find? name known with
        | some value => some (value.getD "")
        | none => Ordered.find? name (Ordered.ofEntries environment)
      let value := value.map fun value =>
        String.ofList (expandText lookup? (value.length + 1) value.toList)
      expand environment (Ordered.insert name value known) definitions

def read (environment : List (String × String)) (text : String) :
    List (String × Option String) :=
  expand environment [] ((statements text).filterMap Statement.definition?)

def warnings (text : String) : List String :=
  (statements text).filterMap fun statement => statement.senselessLine?.map fun line =>
    s!"python-dotenv could not parse statement starting at line {line}"

example : read [] "# c\nexport A='x\\'y' # z\nQ=\"1\n2\" 3\nB = a b #c\nC\n=\nD=\"$\x7bA\x7d\\n$\x7bE:-e\x7d\"" =
    [("A", some "x'y"), ("B", some "a b"), ("C", none), ("D", some "x'y\ne")] := by
  decide +kernel
example : read [] "A='a\\\\'\nB='b\\'\nC=c" = [("A", some "a\\"), ("C", some "c")] := by
  decide +kernel
example : (statements "A=1\n\n=").filterMap Statement.senselessLine? = [2] := by decide +kernel

end ScreenFlow.Dotenv
