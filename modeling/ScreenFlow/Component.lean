import ScreenFlow.Fault
import ScreenFlow.Naming
import ScreenFlow.Value.Compared

namespace ScreenFlow

/-! Components, the things an author puts on a screen: texts that are only shown, fields for free
input, and fields with a list of options. -/

/-! ## Types -/

inductive StaticType where
  | text
  | heading
  | subheading
  | caption
  deriving DecidableEq, Repr

inductive InputType where
  | input
  | textarea
  | date
  deriving DecidableEq, Repr

inductive ChoiceType where
  | radio
  | dropdown
  | checkbox
  deriving DecidableEq, Repr

inductive ComponentType where
  | static (type : StaticType)
  | input (type : InputType)
  | choice (type : ChoiceType)
  deriving DecidableEq, Repr

namespace StaticType

def word : StaticType → Text
  | .text => "text"
  | .heading => "heading"
  | .subheading => "subheading"
  | .caption => "caption"

end StaticType

namespace InputType

def word : InputType → Text
  | .input => "input"
  | .textarea => "textarea"
  | .date => "date"

end InputType

namespace ChoiceType

def word : ChoiceType → Text
  | .radio => "radio"
  | .dropdown => "dropdown"
  | .checkbox => "checkbox"

end ChoiceType

namespace ComponentType

def word : ComponentType → Text
  | .static type => type.word
  | .input type => type.word
  | .choice type => type.word

def all : List ComponentType := [
  .static .text, .static .heading, .static .subheading, .static .caption,
  .input .input, .input .textarea, .input .date,
  .choice .radio, .choice .dropdown, .choice .checkbox]

def ofWord? (word : Text) : Option ComponentType :=
  all.find? fun type => type.word == word

def ofValue? : Value → Option ComponentType
  | .text word => ofWord? word
  | _ => none

theorem mem_all (type : ComponentType) : type ∈ all := by
  rcases type with type | type | type <;> cases type <;> decide

theorem ofWord?_word (type : ComponentType) : ofWord? type.word = some type := by
  rcases type with type | type | type <;> cases type <;> decide

end ComponentType

/-! ## Components -/

/-- A component as its author gave it. What is absent is null. An object that is no component at
all can stand on a screen too; nothing can be done with it. -/
inductive Component where
  | static (type : StaticType) (text name : Value)
  | input (type : InputType) (name label required : Value)
  | choice (type : ChoiceType) (name label required options : Value)
  | foreign
  deriving DecidableEq, Repr

/-- The families a component can be built in. No type belongs to the common base of all fields. -/
inductive Family where
  | static
  | field
  | input
  | choice
  deriving DecidableEq, Repr

structure ComponentParts where
  text : Value
  name : Value
  label : Value
  required : Value
  options : Value
  deriving DecidableEq, Repr

namespace Component

private def named (type : ComponentType) (parts : ComponentParts) (component : Component) :
    Except Fault Component :=
  if parts.name.isGiven then .ok component
  else reject (.missingName (.text type.word) .null .null type.word)

/-- Build a component in a family. The type has to belong to the family, and a field needs a
name. -/
def build : Family → ComponentType → ComponentParts → Except Fault Component
  | .static, .static type, parts => .ok (.static type parts.text parts.name)
  | .static, type, _ => rejectShape (.notStatic type.word)
  | .input, .input type, parts =>
      named (.input type) parts (.input type parts.name parts.label parts.required)
  | .input, type, _ => rejectShape (.notInFamily type.word "InputComponent")
  | .choice, .choice type, parts =>
      named (.choice type) parts (.choice type parts.name parts.label parts.required parts.options)
  | .choice, type, _ => rejectShape (.notInFamily type.word "ChoiceComponent")
  | .field, type, _ => rejectShape (.notInFamily type.word "FieldComponent")

def name? : Component → Option Value
  | .static _ _ name => some name
  | .input _ name _ _ => some name
  | .choice _ name _ _ _ => some name
  | .foreign => none

def boundName? (component : Component) : Except Fault (Option Value) :=
  match component.name? with
  | some name => .ok (if name.isGiven then some name else none)
  | none => .error .missingPart

def boundKey? (screen position : Value) (component : Component) :
    Except Fault (Option Text) := do
  match ← component.boundName? with
  | some name => return some (← Naming.qualifiedName screen position name)
  | none => return none

def key (screen position : Value) (component : Component) : Except Fault Text := do
  match ← component.boundKey? screen position with
  | some key => return key
  | none => return Naming.placeholderName position

def compare (undefined : Bool) : Component → Component → Except Fault Bool
  | .static type text name, .static type' text' name' =>
      if type != type' then .ok false
      else Value.compareAll undefined [(text, text'), (name, name')]
  | .input type name label required, .input type' name' label' required' =>
      if type != type' then .ok false
      else Value.compareAll undefined [(name, name'), (label, label'), (required, required')]
  | .choice type name label required options, .choice type' name' label' required' options' =>
      if type != type' then .ok false
      else
        Value.compareAll undefined
          [(name, name'), (label, label'), (required, required'), (options, options')]
  | .foreign, .foreign => .ok true
  | _, _ => .ok false

end Component

end ScreenFlow
