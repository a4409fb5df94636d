import ScreenFlow.Command
import ScreenFlow.Platform
import ScreenFlow.Text.ControlSequence

namespace ScreenFlow.Command

/-! What a run of the program finds, what it leaves, and the steps between. -/

/-- What a run finds: the words of the command line, the variables of the environment, the files,
the lines to be read, and what becomes of a request. -/
structure World where
  arguments : List String
  environment : List (String × String)
  files : Files
  input : String
  reply : Http.Reply
  deriving Repr

inductive Ending where
  | exit (code : Nat)
  | misuse
  | invalidSettings (names : List String)
  | escaped (fault : Fault)
  deriving DecidableEq, Repr

namespace Ending

def code : Ending → Nat
  | .exit code => code
  | .misuse => 2
  | .invalidSettings _ => 1
  | .escaped _ => 1

end Ending

structure Session where
  files : Files
  output : String
  errors : String
  log : List Text
  entries : List Log.Entry
  requests : List Http.Request
  deriving Repr

abbrev Step := EStateM Ending Session

namespace Session

def start (files : Files) : Session := ⟨files, "", "", [], [], []⟩

def finish (ending : Ending) : Step α := throw ending

def orEscape : Except Fault α → Step α
  | .ok result => pure result
  | .error fault => finish (.escaped fault)

def print (text : String) : Step Unit :=
  modify fun session => { session with output := session.output ++ text }

/-- Print a line. The stream takes it as a whole, or not at all if it holds a surrogate. -/
def tell (line : Text) : Step Unit := do
  print (← orEscape (orFault .unencodable (line ++ "\n").string?))

def say (line : Text) : Step Unit := tell (Text.ControlSequence.strip line)

def warn (line : String) : Step Unit :=
  modify fun session => { session with errors := session.errors ++ line ++ "\n" }

def complain (line : Text) : Step Unit := warn (Text.ControlSequence.strip line).escaped

def note (policy : Log.Policy) (entry : Log.Entry) : Step Unit := do
  match ← orEscape (policy.line entry) with
  | some line =>
      modify fun session =>
        { session with log := session.log ++ [line], entries := session.entries ++ [entry] }
  | none => pure ()

def write (path : String) (text : Text) : Step Unit := do
  let (outcome, files) := (← get).files.save path text.encode
  modify fun session => { session with files }
  orEscape outcome

def sayJson (value : Value) : Step Unit := do
  say (← orEscape (Json.write .readable value))

end Session

end ScreenFlow.Command
