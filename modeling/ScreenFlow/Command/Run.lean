import ScreenFlow.Command.Session
import ScreenFlow.Report
import ScreenFlow.Schema.File

namespace ScreenFlow.Command

/-! Runs of the program. A run ends with code 0 if all went well, with 1 if a form or a request was
refused, and with 2 if a form could not be compiled for another reason. -/

open Session

def loggerName : String := "formflow.cli"

def versionLine : String := "formflow, version 0.1.0"

/-! ## Forms -/

def truncationEntry (diagnostic : Diagnostic) : Log.Entry where
  logger := loggerName
  level := .warning
  event := .text "label_truncated"
  fields := [("screen", diagnostic.screen), ("component", .text diagnostic.component),
    ("original", diagnostic.label), ("truncated", diagnostic.shown)]

def rejectionEntry (path : String) (rejection : Rejection) : Log.Entry where
  logger := loggerName
  level := .warning
  event := .text "schema_rejected"
  fields := [("path", .text path), ("error", .text rejection.message),
    ("kind", .text rejection.kind)]

def failureEntry (path : String) : Log.Entry where
  logger := loggerName
  level := .error
  event := .text "compile_failed"
  fields := [("path", .text path)]

def compile (policy : Log.Policy) (path : String) : Step CompiledFlow := do
  match Schema.load (← get).files path >>= Schema.compile with
  | .ok compiled =>
      compiled.diagnostics.forM fun diagnostic => note policy (truncationEntry diagnostic)
      return compiled
  | .error (.rejected rejection) =>
      note policy (rejectionEntry path rejection)
      complain ("Error: " ++ rejection.message)
      finish (.exit 1)
  | .error _ =>
      note policy (failureEntry path)
      complain "Error: An unexpected error occurred"
      finish (.exit 2)

def orComplain (outcome : Except Fault α) : Step α := do
  match outcome with
  | .ok result => return result
  | .error (.rejected rejection) =>
      complain ("Error: " ++ rejection.message)
      finish (.exit 1)
  | .error fault => finish (.escaped fault)

def warningLines (report : Report) : List Text :=
  if report.warnings.isEmpty then []
  else "" :: s!"Warnings ({report.warnings.length}):" ::
    report.warnings.map fun warning => "  - " ++ warning.display

def reportLines (report : Report) : List Text :=
  let totals : List Text := [s!"Screens:    {report.totalScreens}",
    s!"Components: {report.totalComponents}", s!"Fields:     {report.totalFields}",
    "Terminal:   " ++ report.terminal.getD "None"]
  totals ++
    report.inbound.map (fun (screen, count) =>
      "  " ++ screen ++ s!": reads {count} upstream fields") ++ warningLines report

/-! ## The platform -/

/-- Carry out an operation on the platform and print its result. A refusal is printed with what the
platform says about it. -/
def ask (policy : Log.Policy) (settings : Settings) (boundary : String) (reply : Http.Reply)
    (operation : Platform.Operation) : Step Unit := do
  let client ← orEscape (Platform.Client.ofSettings settings boundary)
  let outcome := client.perform operation reply
  modify fun session => { session with requests := session.requests ++ outcome.request.toList }
  outcome.log.forM (note policy)
  match outcome.result with
  | .ok value => sayJson value
  | .error (.failed fault) => finish (.escaped fault)
  | .error (.refused refusal) =>
      complain ("Error: " ++ refusal.message.display)
      if !refusal.payload.isNull then sayJson refusal.payload
      finish (.exit 1)

/-- Whether a value is a flow document: it has a version and a list of screens, each of them with a
layout. -/
def isFlowDocument : Value → Bool
  | .map entries =>
      (Value.lookup? "version" entries).isSome &&
        match Value.lookup? "screens" entries with
        | some (.list screens) => screens.all hasLayout
        | _ => false
  | _ => false
where
  hasLayout : Value → Bool
    | .map entries => (Value.lookup? "layout" entries).isSome
    | _ => false

/-- Whether bytes hold a flow document. Bytes that are no JSON do not, but a number with too many
digits keeps that from being known. -/
def holdsFlowDocument (content : List UInt8) : Except Fault Bool :=
  match Json.readBytes content with
  | .ok value => .ok (isFlowDocument value)
  | .error .malformedJson | .error .undecodable => .ok false
  | .error fault => .error fault

/-- What is uploaded for a file: the file itself if it holds a flow document, and otherwise the
document compiled from the schema in it. -/
def assetOf (policy : Log.Policy) (path : String) : Step Platform.Asset := do
  let content ← orEscape ((← get).files.read path)
  if ← orEscape (holdsFlowDocument content) then return .bytes content
  else return .document (← compile policy path).document.toValue

/-! ## Questions -/

/-- The answer to a question of which no is the usual answer: none if the lines come to an end. What
is neither yes nor no is asked again. The text is what the screen shows. -/
def confirm (question : String) : List String → Option Bool × String
  | [] => (none, question)
  | line :: lines =>
      let shown := question ++ line ++ "\n"
      let answer := Text.ofList (Text.trim (Text.lower line).toList)
      if answer = "y" || answer = "yes" then (some true, shown)
      else if answer = "n" || answer = "no" || answer = "" then (some false, shown)
      else
        let (answer, further) := confirm question lines
        (answer, shown ++ "Error: invalid input\n" ++ further)

def inputLines (text : String) : List String :=
  let lines := (Text.unifyNewlines text.toList).splitOn '\n'
  (if lines.getLast? = some [] then lines.dropLast else lines).map String.ofList

def confirmDeletion (input : String) : Step Unit := do
  let (answer, shown) := confirm "Delete this flow? [y/N]: " (inputLines input)
  print shown
  if answer ≠ some true then
    complain "Aborted!"
    finish (.exit 1)

/-! ## Commands -/

/-- What a command needs besides its own words. -/
structure Means where
  policy : Log.Policy
  settings : Settings
  input : String
  reply : Http.Reply
  boundary : String
  deriving Repr

def perform (means : Means) : Command → Step Unit
  | .generate schema output => do
      let compiled ← compile means.policy schema
      let text ← orEscape compiled.document.toJson
      match output with
      | some path =>
          write path text
          say s!"Compiled {compiled.document.screens.length} screens to {path}"
      | none => say text
  | .analyze path => do
      let report ← orComplain (Schema.load (← get).files path >>= Schema.analyze)
      (reportLines report).forM say
  | .diagram path output mode => do
      let schema ← orComplain (Schema.load (← get).files path)
      let text ← orEscape (schema.diagram mode)
      match output with
      | some path => write path text
      | none => say text
  | .create name categories =>
      let listed := categories.map fun category : String => .text category
      platform (.createFlow (.text name) (.list listed))
  | .list => platform .listFlows
  | .inspect id => platform (.getFlow id)
  | .preview id => platform (.previewFlow id)
  | .upload id path => do platform (.uploadFlow id (← assetOf means.policy path))
  | .delete id confirmed sound => do
      if !confirmed then confirmDeletion means.input
      if sound then platform (.deleteFlow id) else finish .misuse
where
  platform : Platform.Operation → Step Unit :=
    ask means.policy means.settings means.boundary means.reply

/-! ## Runs -/

def dotenvName : String := ".env"

/-- The text of the settings file, if there is one. Statements in it that make no sense are told. -/
def readSettingsFile (world : World) : Step (Option String) := do
  if world.files.holds dotenvName then
    let content ← orEscape (world.files.read dotenvName)
    let text ← orEscape (orFault .undecodable (Text.Utf8.decode? content))
    (Dotenv.warnings text).forM warn
    return some text
  else return none

def settingsOf (world : World) : Step Settings := do
  let file ← readSettingsFile world
  match ← orEscape (Settings.gather [] world.environment file) with
  | .ok settings => return settings
  | .error names => finish (.invalidSettings names)

def policyOf (leading : Words) (settings : Settings) : Step Log.Policy := do
  let name := (leading.value? "log-level").filter fun name => name != ""
  let threshold ←
    match name with
    | some name => orEscape (Log.severityOfName name)
    | none => pure settings.logLevel.severity
  return ⟨threshold, settings.logJson⟩

def orMisuse : Option α → Step α
  | some result => pure result
  | none => finish .misuse

def answerLeading : List Given → Step Unit
  | [] => pure ()
  | given :: rest => do
      if given.name = "version" then
        say versionLine
        finish (.exit 0)
      else if given.name = "help" then finish (.exit 0)
      else answerLeading rest

/-- All that a run does. The name of the command is looked at before the settings, and the words
after it are looked at after them. -/
def proceed (world : World) (boundary : String) : Step Unit := do
  let leading ← orMisuse (readLeading world.arguments)
  answerLeading leading.options
  match leading.others with
  | [] => finish .misuse
  | name :: rest => do
      let (_, switches) ← orMisuse (switches.find? fun entry => entry.1 == name)
      let settings ← settingsOf world
      let policy ← policyOf leading settings
      let words ← orMisuse (readWords switches true none rest)
      if words.has "help" then finish (.exit 0)
      let command ← orMisuse (ofWords world.files name words)
      perform ⟨policy, settings, world.input, world.reply, boundary⟩ command

def run (world : World) (boundary : String) : Ending × Session :=
  match (proceed world boundary).run (.start world.files) with
  | .ok _ session => (.exit 0, session)
  | .error ending session => (ending, session)

end ScreenFlow.Command
