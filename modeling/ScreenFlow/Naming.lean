import ScreenFlow.Fault
import ScreenFlow.Text.Blank
import ScreenFlow.Text.Lowercase
import ScreenFlow.Value.Display
import ScreenFlow.Value.Same

namespace ScreenFlow.Naming

/-! Names that reach the compiled document. The key of a field joins the id of its screen, its own
name and its position, so that a name may be used again on another screen. -/

def maxLabelLength : Nat := 20

def underscored (name : Text) : Text :=
  ⟨Text.collapseBlanks false name.toList⟩

def joinKey (screen name position : Text) : Text :=
  screen ++ "_" ++ underscored name ++ "_" ++ position

def sanitize : Value → Except Fault Text
  | .text name => .ok (underscored name)
  | _ => .error .wrongKind

def qualifiedName (screen position : Value) : Value → Except Fault Text
  | .text name => .ok (joinKey screen.display name position.display)
  | _ => .error .wrongKind

def placeholderName (position : Value) : Text := "unnamed_" ++ position.display

def optionId (position : Value) : Value → Except Fault Text
  | .text option => .ok (position.display ++ "_" ++ Text.lower (underscored option))
  | _ => .error .wrongKind

/-- A label cut to at most `limit` characters. A label that is absent stays so; one without a
length cannot be measured. -/
def truncateLabel (limit : Int) (label : Value) : Except Fault Value :=
  if label.isNull then .ok .null
  else
    match label.length? with
    | none => .error .wrongKind
    | some length =>
        if length > limit then orFault .wrongKind (label.upTo? limit) else .ok label

/-- A label cut to a limit as a caller gives it. Truth values count as one and zero; another number
may be compared with, but nothing can be cut to it. -/
def truncateTo (limit label : Value) : Except Fault Value :=
  match limit.whole?, limit with
  | some limit, _ => truncateLabel limit label
  | none, .float limit =>
      if label.isNull then .ok .null
      else do
        let length ← orFault .wrongKind label.length?
        if limit.less (.ofInt length) then .error .wrongKind else return label
  | none, _ => if label.isNull then .ok .null else .error .wrongKind

example : qualifiedName (.text "s1") (.int 0) (.text "first name") = .ok "s1_first_name_0" := by
  decide +kernel
example : optionId (.int 1) (.text "Not Sure") = .ok "1_not_sure" := by decide +kernel
example : truncateLabel 2 (.text "abc") = .ok (.text "ab") := by decide +kernel
example : truncateTo (.bool true) (.text "abc") = .ok (.text "a") := by decide +kernel

end ScreenFlow.Naming
