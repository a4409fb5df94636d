import ScreenFlow.Fault
import ScreenFlow.Value.Same

namespace ScreenFlow.Value

/-! Comparing values part by part, which has no end if two values without a difference lead back to
themselves. -/

mutual

def leadsBack : Value → Bool
  | .cyclic .. => true
  | .list items | .tuple items => anyLeadsBack items
  | .map entries => anyEntryLeadsBack entries
  | _ => false
termination_by structural value => value

def anyLeadsBack : List Value → Bool
  | [] => false
  | value :: values => leadsBack value || anyLeadsBack values
termination_by structural values => values

def anyEntryLeadsBack : List (Value × Value) → Bool
  | [] => false
  | (_, value) :: entries => leadsBack value || anyEntryLeadsBack entries
termination_by structural entries => entries

end

def compare (undefined : Bool) (left right : Value) : Except Fault Bool :=
  if sameGiven undefined left right then
    if left.leadsBack then .error .tooDeep else .ok true
  else .ok false

def compareAll (undefined : Bool) : List (Value × Value) → Except Fault Bool
  | [] => .ok true
  | (left, right) :: pairs => do
      if ← compare undefined left right then compareAll undefined pairs else return false

example : compare false (.cyclic 0 (.list [.again 0])) (.cyclic 3 (.list [.again 3])) =
    .error .tooDeep := by decide +kernel
example : compare true (.float .nan) (.float .nan) = .ok true := by decide +kernel

end ScreenFlow.Value
