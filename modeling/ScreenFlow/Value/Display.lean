import ScreenFlow.Number.Shortest
import ScreenFlow.Text.Quoted
import ScreenFlow.Value

namespace ScreenFlow

/-! The text of a value. A text is displayed as it is; inside another value, and for every other
kind, the form shows what kind of value it is. -/

namespace Date

def inner (date : Date) : String :=
  s!"datetime.date({date.year}, {date.month}, {date.day})"

end Date

namespace Moment

/-- An offset from universal time as a part of another value: whole days and the seconds left. -/
def innerOffset (offset : Int) : String :=
  if offset = 0 then "datetime.timezone.utc"
  else
    let seconds := offset * 60
    let parts :=
      if offset < 0 then s!"days=-1, seconds={seconds + 86400}" else s!"seconds={seconds}"
    "datetime.timezone(datetime.timedelta(" ++ parts ++ "))"

def inner (moment : Moment) : String :=
  let clock := [moment.hour, moment.minute] ++
    (if moment.microsecond = 0 then
      (if moment.second = 0 then [] else [moment.second])
    else [moment.second, moment.microsecond])
  let numbers := [moment.date.year, moment.date.month, moment.date.day] ++ clock
  "datetime.datetime(" ++ ", ".intercalate (numbers.map toString) ++
    moment.offset.elim "" (fun offset => ", tzinfo=" ++ innerOffset offset) ++ ")"

end Moment

namespace Value

def ellipsis : Value → Text
  | .map _ => "\x7b...\x7d"
  | .tuple _ => "(...)"
  | _ => "[...]"

mutual

/-- The form of a value inside another one. `around` has the collections that the value stands
inside of and that contain themselves, by their labels. -/
def innerWithin (around : List (Nat × Value)) : Value → Text
  | .null => "None"
  | .bool flag => if flag then "True" else "False"
  | .int number => toString number
  | .float number => NumberFormat.display.render number
  | .text content => Text.quoted content
  | .list items => "[" ++ Text.intercalate ", " (innerAll around items) ++ "]"
  | .map entries => "\x7b" ++ Text.intercalate ", " (innerEntries around entries) ++ "\x7d"
  | .date day => day.inner
  | .moment stamp => stamp.inner
  | .bytes content => Text.quotedBytes content
  | .set [] => "set()"
  | .set members => "\x7b" ++ Text.intercalate ", " (innerAll around members) ++ "\x7d"
  | .tuple [] => "()"
  | .tuple (first :: []) => "(" ++ innerWithin around first ++ ",)"
  | .tuple items => "(" ++ Text.intercalate ", " (innerAll around items) ++ ")"
  | .cyclic label content =>
      if around.any (·.1 == label) then ellipsis content
      else innerWithin ((label, content) :: around) content
  | .again label => ((around.find? (·.1 == label)).map (ellipsis ·.2)).getD "[...]"
termination_by structural value => value

def innerAll (around : List (Nat × Value)) : List Value → List Text
  | [] => []
  | value :: values => innerWithin around value :: innerAll around values
termination_by structural values => values

def innerEntries (around : List (Nat × Value)) : List (Value × Value) → List Text
  | [] => []
  | (key, value) :: entries =>
      (innerWithin around key ++ ": " ++ innerWithin around value) :: innerEntries around entries
termination_by structural entries => entries

end

def inner (value : Value) : Text := innerWithin [] value

def display : Value → Text
  | .text content => content
  | .date day => day.render
  | .moment stamp => stamp.render
  | value => value.inner

example : (Value.list [.text "a", .null, .bool true]).display = "['a', None, True]" := by
  decide +kernel
example : (Value.cyclic 0 (.map [(.text "k", .list [.again 0])])).display =
    "\x7b'k': [\x7b...\x7d]\x7d" := by
  decide +kernel

end Value

end ScreenFlow
