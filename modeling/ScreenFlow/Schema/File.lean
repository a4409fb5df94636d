import ScreenFlow.Files
import ScreenFlow.Flow
import ScreenFlow.Diagram
import ScreenFlow.Schema.Document
import ScreenFlow.Text.Lowercase
import ScreenFlow.Text.Newline
import ScreenFlow.Text.Utf8
import ScreenFlow.Yaml.Node.Value
import ScreenFlow.Yaml.Writer

namespace ScreenFlow

/-! Schemas in files, and files made from schemas. A file's name decides how it is read: as JSON if
it ends in `.json`, in whatever case, and as YAML otherwise. -/

namespace Schema

/-- The schema in a YAML text. YAML allows no surrogate in a text that it is read from. -/
def ofYaml (text : Text) : Except Fault Schema := do
  ofValue (← Yaml.read (← orFault Yaml.malformed text.string?))

def toYaml (schema : Schema) : Except Fault String := do Yaml.write (← schema.toValue)

def namesJson (path : String) : Bool :=
  Text.lower (Path.suffix (Path.lastName path)) == (".json" : Text)

/-- The text of a file: UTF-8 with any kind of line ends. A mark of the byte order is kept. -/
def fileText (content : List UInt8) : Except Fault String := do
  let text ← orFault .undecodable (Text.Utf8.decode? content)
  return String.ofList (Text.unifyNewlines text.toList)

def ofFile (path : String) (content : List UInt8) : Except Fault Schema := do
  let text ← fileText content
  if namesJson path then ofJson text else ofYaml text

def load (files : Files) (path : String) : Except Fault Schema := do
  ofFile path (← files.read path)

/-! ## Saving -/

/-- Compile a schema and write the flow document to a path. The file is made after the schema was
compiled and before the document is put into words. -/
def saveFlow (schema : Schema) (files : Files) (path : String) :
    Except Fault CompiledFlow × Files :=
  match schema.compile with
  | .error fault => (.error fault, files)
  | .ok compiled =>
      let (outcome, files) := files.save path compiled.document.encode
      (outcome.map fun _ => compiled, files)

def saveDiagram (schema : Schema) (mode : DiagramMode) (files : Files) (path : String) :
    Except Fault Unit × Files :=
  match schema.diagram mode with
  | .error fault => (.error fault, files)
  | .ok text => files.save path text.encode

end Schema

end ScreenFlow
