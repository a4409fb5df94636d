import ScreenFlow.Schema.Document

namespace ScreenFlow

/-! Widgets, the compiled form of components. A label that is too long is cut, and the cut is
reported; a static component keeps its text and nothing else. -/

namespace ComponentType

def widget : ComponentType → Text
  | .static .text => "TextBody"
  | .static .heading => "TextHeading"
  | .static .subheading => "TextSubheading"
  | .static .caption => "TextCaption"
  | .input .input => "TextInput"
  | .input .textarea => "TextArea"
  | .input .date => "DatePicker"
  | .choice .radio => "RadioButtonsGroup"
  | .choice .dropdown => "Dropdown"
  | .choice .checkbox => "CheckboxGroup"

end ComponentType

structure Choice where
  id : Text
  title : Value
  deriving DecidableEq, Repr

inductive Widget where
  | display (type : StaticType) (text : Value)
  | input (type : InputType) (label : Value) (name : Text) (required : Value)
  | choice (type : ChoiceType) (label : Value) (name : Text) (required : Value)
      (source : Option (List Choice))
  deriving DecidableEq, Repr

structure Diagnostic where
  screen : Value
  component : Text
  message : Text
  label : Value
  shown : Value
  deriving DecidableEq, Repr

namespace Choice

def ofOptions (position : Nat) : List Value → Except Fault (List Choice)
  | [] => return []
  | option :: rest => do
      let id ← Naming.optionId (.int position) option
      return ⟨id, option⟩ :: (← ofOptions (position + 1) rest)

def toValue (choice : Choice) : Value :=
  .map [field "id" (.text choice.id), field "title" choice.title]

end Choice

namespace Diagnostic

def ofLabel? (screen : Value) (component : Text) (label shown : Value) :
    Except Fault (Option Diagnostic) := do
  if label = shown then return none
  else
    let message := "Label \"" ++ (← label.render) ++ "\" truncated to " ++
      toString Naming.maxLabelLength ++ " characters."
    return some { screen, component, message, label, shown }

end Diagnostic

namespace Component

def compile (screen position : Value) : Component → Except Fault (Widget × Option Diagnostic)
  | .static type text _ => .ok (.display type text, none)
  | .input type name label required => do
      let key ← Naming.qualifiedName screen position name
      let shown ← Naming.truncateLabel Naming.maxLabelLength label
      let report ← Diagnostic.ofLabel? screen key label shown
      return (.input type shown key required, report)
  | .choice type name label required options => do
      let key ← Naming.qualifiedName screen position name
      let shown ← Naming.truncateLabel Naming.maxLabelLength label
      let report ← Diagnostic.ofLabel? screen key label shown
      let source ←
        if options.isNull then pure none
        else (do Choice.ofOptions 0 (← orFault .wrongKind options.parts?)).map some
      return (.choice type shown key required source, report)
  | .foreign => .error .wrongKind

end Component

namespace Widget

def toValue : Widget → Value
  | .display type text =>
      .map (field "type" (.text (ComponentType.static type).widget) :: optionalField "text" text)
  | .input type label name required =>
      .map ([field "type" (.text (ComponentType.input type).widget)] ++
        optionalField "label" label ++
        [field "name" (.text name), field "required" required] ++
        if type = .input then [field "input-type" (.text "text")] else [])
  | .choice type label name required source =>
      .map ([field "type" (.text (ComponentType.choice type).widget)] ++
        optionalField "label" label ++ [field "name" (.text name)] ++
        (source.elim [] fun choices =>
          [field "data-source" (.list (choices.map Choice.toValue))]) ++
        [field "required" required])

end Widget

end ScreenFlow
