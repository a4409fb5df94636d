import ScreenFlow.Json.Reader
import ScreenFlow.Value.Display

namespace ScreenFlow

/-! Why a form is refused. Every rejection names its cause, and the wording follows from the
cause. -/

def maxScreens : Nat := 8

def maxComponents : Nat := 8

/-- What is wrong with the shape of a document or of one of its parts. -/
inductive Malformation where
  | schemaShape
  | screensKind
  | screenKind (kind : String)
  | screenWithoutId
  | componentsKind (screen : Text)
  | componentKind (kind : String)
  | unsupportedType (shown : Text)
  | optionsKind (name : Text)
  | notStatic (type : Text)
  | notInFamily (type family : Text)
  | invalidJson (error : Json.ReadError)
  | invalidYaml
  | unspecified
  deriving DecidableEq, Repr

namespace Malformation

def message : Malformation → Text
  | .schemaShape => "Schema must be a mapping with a 'screens' list"
  | .screensKind => "'screens' must be a list"
  | .screenKind kind => "Screen must be a mapping, got " ++ kind
  | .screenWithoutId => "Screen is missing an id"
  | .componentsKind screen => "Components of screen " ++ screen ++ " must be a list"
  | .componentKind kind => "Component must be a mapping, got " ++ kind
  | .unsupportedType shown => "Unsupported component type: " ++ shown
  | .optionsKind name => "Options for " ++ name ++ " must be a list"
  | .notStatic type => type ++ " is not a static component type"
  | .notInFamily type family => type ++ " is not valid for " ++ family
  | .invalidJson error => "Invalid JSON: " ++ error.message
  | .invalidYaml => "Invalid YAML"
  | .unspecified => ""

end Malformation

/-- The cause of a refusal with the data a caller may act on. These are kept in the form in which
they were given. -/
inductive Rejection where
  | malformed (malformation : Malformation)
  | noScreens
  | tooManyScreens (limit actual : Value)
  | tooManyComponents (limit actual screen : Value)
  /-- A field without a name, where it stands if that is known, and how it was given. -/
  | missingName (type screen position : Value) (given : Text)
  | repeatedScreen (id : Value)
  | screenCountMismatch (expected actual : Value)
  | repeatedName (name screen : Value)
  | general
  | worded (rejection : Rejection) (wording : Text)
  deriving DecidableEq, Repr

namespace Rejection

def message : Rejection → Text
  | .malformed malformation => malformation.message
  | .noScreens => "Schema must contain at least one screen."
  | .tooManyScreens limit _ => "Maximum number of screens (" ++ limit.display ++ ") exceeded."
  | .tooManyComponents limit _ screen =>
      "Screen " ++ screen.display ++ " exceeds maximum number of components (" ++
        limit.display ++ ")."
  | .missingName _ _ _ given => "Component missing name: " ++ given
  | .repeatedScreen id => "Duplicate screen id: " ++ id.display
  | .screenCountMismatch expected actual =>
      "Some screens were invalid: compiled " ++ actual.display ++ " of " ++ expected.display ++
        ". Flow JSON not generated."
  | .repeatedName name screen =>
      "Duplicate field name: " ++ name.display ++ " (screen " ++ screen.display ++ ")"
  | .general => ""
  | .worded _ wording => wording

def kind : Rejection → String
  | .malformed _ => "SchemaFormatError"
  | .noScreens => "EmptySchema"
  | .tooManyScreens .. => "SchemaLimitExceeded"
  | .tooManyComponents .. => "SchemaLimitExceeded"
  | .missingName .. => "MissingComponentName"
  | .repeatedScreen _ => "ScreenIdCollision"
  | .screenCountMismatch .. => "ScreenCountMismatch"
  | .repeatedName .. => "QualifiedNameCollision"
  | .general => "FlowCompileError"
  | .worded rejection _ => rejection.kind

def cause : Rejection → Rejection
  | .worded rejection _ => rejection.cause
  | rejection => rejection

end Rejection

end ScreenFlow
