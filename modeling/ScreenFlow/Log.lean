import ScreenFlow.Fault
import ScreenFlow.Json.Writer
import ScreenFlow.Ordered
import ScreenFlow.Value.Display

namespace ScreenFlow

/-! Log entries: events with a level, the part of the program they come from, and fields. -/

namespace Log

inductive Level where
  | debug
  | info
  | warning
  | error
  | critical
  deriving DecidableEq, Repr

namespace Level

def word : Level → String
  | .debug => "debug"
  | .info => "info"
  | .warning => "warning"
  | .error => "error"
  | .critical => "critical"

def name : Level → String
  | .debug => "DEBUG"
  | .info => "INFO"
  | .warning => "WARNING"
  | .error => "ERROR"
  | .critical => "CRITICAL"

def severity : Level → Nat
  | .debug => 10
  | .info => 20
  | .warning => 30
  | .error => 40
  | .critical => 50

def all : List Level := [.debug, .info, .warning, .error, .critical]

end Level

/-- A letter as capitals, as far as names need it: besides those of ASCII a few letters have ASCII
capitals. -/
def capital (character : Char) : List Char :=
  if character = 'ı' then ['I']
  else if character = 'ſ' then ['S']
  else if character = 'ﬅ' || character = 'ﬆ' then ['S', 'T']
  else [character.toUpper]

def capitals (word : String) : String := String.ofList (word.toList.flatMap capital)

def Level.ofName? (name : String) : Option Level :=
  Level.all.find? fun level => level.name == capitals name

/-- The least severity that a name asks for. Besides the names of the levels there are short ones
and one for everything; two more names stand for things that are no severity. -/
def severityOfName (name : String) : Except Fault Nat :=
  match capitals name with
  | "WARN" => .ok Level.warning.severity
  | "FATAL" => .ok Level.critical.severity
  | "NOTSET" => .ok 0
  | "BASIC_FORMAT" => .error .badValue
  | "_STYLES" => .error .wrongKind
  | _ => orFault .missingPart ((Level.ofName? name).map Level.severity)

/-- An event as the program reports it. What is told as the event is most often a text. -/
structure Entry where
  logger : Text
  level : Level
  event : Value
  fields : List (Text × Value)
  deriving DecidableEq, Repr

mutual

/-- A value in which the inner form of each part without a JSON form stands for that part. -/
def printable : Value → Value
  | .list items => .list (printableAll items)
  | .tuple items => .tuple (printableAll items)
  | .map entries => .map (printableEntries entries)
  | .date day => .text (Value.date day).inner
  | .moment stamp => .text (Value.moment stamp).inner
  | .bytes content => .text (Value.bytes content).inner
  | .set members => .text (Value.set members).inner
  | .cyclic label content => .cyclic label (printable content)
  | value => value
termination_by structural value => value

def printableAll : List Value → List Value
  | [] => []
  | value :: values => printable value :: printableAll values
termination_by structural values => values

def printableEntries : List (Value × Value) → List (Value × Value)
  | [] => []
  | (key, value) :: entries => (key, printable value) :: printableEntries entries
termination_by structural entries => entries

end

namespace Entry

/-- Fields that say how an event is to be written and do not become part of the line: its time,
which the writer adds, and requests for what led to it. -/
def instructions : List Text := ["timestamp", "exc_info", "stack_info"]

/-- The fields of an entry with its event, if it has one, its level and its logger. These take the
place of fields of the same names. -/
def table (entry : Entry) : List (Text × Value) :=
  let fields := entry.fields.filter fun field => !instructions.contains field.1
  let event : List (Text × Value) := if entry.event.isNull then [] else [("event", entry.event)]
  let origin : List (Text × Value) :=
    [("level", .text entry.level.word), ("logger", .text entry.logger)]
  Ordered.update fields (event ++ origin)

def toValue (entry : Entry) : Value :=
  printable (.map (entry.table.map fun (name, value) => (.text name, value)))

def jsonLine (entry : Entry) : Except Fault Text :=
  Json.write .compact entry.toValue

def plainLine (entry : Entry) : Text :=
  let fields := entry.fields.map fun (name, value) => " " ++ name ++ "=" ++ value.display
  "[" ++ entry.level.word ++ "] " ++ entry.event.display ++ " [" ++ entry.logger ++ "]" ++
    Text.intercalate "" fields

end Entry

/-- What is done with entries: the least severity that is written, and the form of a line. -/
structure Policy where
  threshold : Nat
  json : Bool
  deriving DecidableEq, Repr

namespace Policy

def admits (policy : Policy) (level : Level) : Bool := policy.threshold ≤ level.severity

def line (policy : Policy) (entry : Entry) : Except Fault (Option Text) := do
  let text ← if policy.json then entry.jsonLine else pure entry.plainLine
  return if policy.admits entry.level then some text else none

end Policy

example : severityOfName "Warn" = .ok 30 := by decide +kernel
example : severityOfName "loud" = .error .missingPart := by decide +kernel

end Log

end ScreenFlow
