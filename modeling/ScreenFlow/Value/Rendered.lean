import ScreenFlow.Fault
import ScreenFlow.Number.Whole

namespace ScreenFlow.Value

/-! The text of a value as far as it has one: a value that holds a number with too many digits has
none. The levels of a value are not counted: an interpreter that runs out of stack on about a
thousand of them, at a depth that depends on its settings and on its caller, is no part of this. -/

mutual

def isWritable : Value → Bool
  | .int number => Whole.isWritable number
  | .list items | .tuple items | .set items => areWritable items
  | .map entries => entriesAreWritable entries
  | .cyclic _ content => isWritable content
  | _ => true
termination_by structural value => value

def areWritable : List Value → Bool
  | [] => true
  | value :: values => isWritable value && areWritable values
termination_by structural values => values

def entriesAreWritable : List (Value × Value) → Bool
  | [] => true
  | (key, value) :: entries => isWritable key && isWritable value && entriesAreWritable entries
termination_by structural entries => entries

end

def renderInner (value : Value) : Except Fault Text :=
  if value.isWritable then .ok value.inner else .error .badValue

def render (value : Value) : Except Fault Text :=
  if value.isWritable then .ok value.display else .error .badValue

example : (Value.list [.int 1, .text "a"]).render = .ok "[1, 'a']" := by decide +kernel
example : (Value.list [.int (10 ^ 4300)]).render = .error .badValue := by decide +kernel

end ScreenFlow.Value
