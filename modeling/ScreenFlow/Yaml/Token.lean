import ScreenFlow.Fault

namespace ScreenFlow.Yaml

/-! Tokens of YAML text. -/

/-- A line that starts with a percent sign and tells how to read what follows. -/
inductive Directive where
  | version (major minor : Nat)
  | tag (handle expansion : String)
  | other
  deriving DecidableEq, Repr

/-- A tag as it is written: a handle that stands for the start of the tag, or none if the tag is
written in full. -/
structure WrittenTag where
  handle : Option String
  suffix : String
  deriving DecidableEq, Repr

inductive Token where
  | directive (directive : Directive)
  | documentStart
  | documentEnd
  | blockSequenceStart
  | blockMappingStart
  | blockEnd
  | flowSequenceStart
  | flowSequenceEnd
  | flowMappingStart
  | flowMappingEnd
  | blockEntry
  | flowEntry
  | key
  | value
  | alias (name : String)
  | anchor (name : String)
  | tag (tag : WrittenTag)
  | scalar (content : Text) (plain : Bool)
  | streamEnd
  | unreadable (fault : Fault)
  deriving DecidableEq, Repr

def malformed : Fault := .rejected (.malformed .invalidYaml)

def refuse : Except Fault α := .error malformed

def require (condition : Bool) : Except Fault Unit := if condition then .ok () else refuse

end ScreenFlow.Yaml
