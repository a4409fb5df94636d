import ScreenFlow.Command.Words
import ScreenFlow.Diagram
import ScreenFlow.Files

namespace ScreenFlow

/-! What a command line asks for. -/

inductive Command where
  | generate (schema : String) (output : Option String)
  | analyze (schema : String)
  | diagram (schema : String) (output : Option String) (mode : DiagramMode)
  | create (name : String) (categories : List String)
  | list
  | inspect (id : String)
  | preview (id : String)
  | upload (id path : String)
  /-- Deleting asks first, unless that was confirmed; words that make no sense are refused only
  after the question. -/
  | delete (id : String) (confirmed sound : Bool)
  deriving DecidableEq, Repr

namespace Command

def help : Switch := ⟨"help", none, false⟩

def leadingSwitches : List Switch :=
  [⟨"version", none, false⟩, ⟨"log-level", none, true⟩, help]

def switches : List (String × List Switch) := [
  ("generate", [⟨"output", some 'o', true⟩, help]),
  ("analyze", [help]),
  ("diagram", [⟨"output", some 'o', true⟩, ⟨"detailed", none, false⟩, help]),
  ("create", [⟨"category", some 'c', true⟩, help]),
  ("list", [help]),
  ("get", [help]),
  ("preview", [help]),
  ("upload", [help]),
  ("delete", [⟨"yes", none, false⟩, help])]

/-- A command line up to the name of a command, which is the first of its other words. -/
def readLeading (arguments : List String) : Option Words :=
  readWords leadingSwitches false none arguments

def outputOf (words : Words) : Option String :=
  (words.value? "output").filter fun path => path != ""

/-- The command that the words after a name make. The schemas and documents that it names have to
be files. -/
def ofWords (files : Files) (name : String) (words : Words) : Option Command :=
  match name, words.others with
  | "generate", [schema] =>
      if files.holds schema then some (.generate schema (outputOf words)) else none
  | "analyze", [schema] => if files.holds schema then some (.analyze schema) else none
  | "diagram", [schema] =>
      if files.holds schema then
        some (.diagram schema (outputOf words)
          (if words.has "detailed" then .detailed else .simple))
      else none
  | "create", [name] => some (.create name (words.values "category"))
  | "list", [] => some .list
  | "get", [id] => some (.inspect id)
  | "preview", [id] => some (.preview id)
  | "upload", [id, path] => if files.holds path then some (.upload id path) else none
  | "delete", id :: surplus => some (.delete id (words.has "yes") surplus.isEmpty)
  | _, _ => none

example : ofWords .empty "get" ⟨[], ["42"]⟩ = some (.inspect "42") := by decide +kernel
example : ofWords .empty "generate" ⟨[], ["s.json"]⟩ = none := by decide +kernel

end Command

end ScreenFlow
