import ScreenFlow.Log
import ScreenFlow.Value.Same

namespace ScreenFlow.Log

/-! Reporting events by word. A logger does what a word says: most words are names of levels, and a
few others do something else with the logger, which an event is not made for. -/

/-- The name of the logger that a value asks for. What is not given asks for the root. -/
def loggerName (logger : Value) : Except Fault Text :=
  if logger.isGiven then orFault .wrongKind logger.text? else .ok "root"

def levelOfWord? (word : String) : Option Level :=
  match word with
  | "warn" => some .warning
  | "fatal" => some .critical
  | "exception" => some .error
  | word => Level.all.find? fun level => level.word == word

/-- The words for what a logger has or tells without being asked about an event. Nothing can be
reported under them. -/
def properties : List String :=
  ["name", "level", "parent", "propagate", "handlers", "disabled", "getEffectiveLevel",
    "hasHandlers", "makeRecord"]

def takenNames : List Text := ["self", "event", "method_name"]

/-- The field for an entry that was made elsewhere, whose logger would count. No value of a field is
such an entry. -/
def foreignEntry : Text := "_record"

def levelOfSeverity (event : Value) : Except Fault Level :=
  if event.same (.int 0) then .error .missingPart
  else if !event.isKey then .error .wrongKind
  else orFault .unknownWord (Level.all.find? fun level => event.same (.int level.severity))

/-- The entry that an event leads to when it is reported under a word, if it leads to one. -/
def report (logger : Value) (word : String) (event : Value) (fields : List (Text × Value)) :
    Except Fault (Option Entry) := do
  let logger ← loggerName logger
  let clash (names : List Text) : Bool := fields.any fun field => names.contains field.1
  let entry (level : Level) (event : Value) : Except Fault (Option Entry) :=
    if fields.any fun field => field.1 = foreignEntry && !field.2.isNull then .error .missingPart
    else .ok (some { logger, level, event, fields })
  match levelOfWord? word with
  | some level => if clash takenNames then .error .wrongKind else entry level event
  | none =>
      if word = "bind" || word = "new" || properties.contains word then .error .wrongKind
      else if word = "unbind" || word = "try_unbind" then
        if !fields.isEmpty || !event.isKey then .error .wrongKind
        else if word = "unbind" then .error .unknownWord
        else return none
      else if word = "log" then
        if clash ["self", "method_name"] || clash ["level"] then .error .wrongKind
        else entry (← levelOfSeverity event) .null
      else .error .missingPart

example : (report .null "fatal" (.text "e") []) =
    .ok (some ⟨"root", .critical, .text "e", []⟩) := by decide +kernel
example : report (.int 5) "nope" .null [] = .error .wrongKind := by decide +kernel
example : report (.text "a") "nope" .null [] = .error .missingPart := by decide +kernel

end ScreenFlow.Log
