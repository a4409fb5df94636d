import ScreenFlow.Command.Run

namespace ScreenFlow.Command

/-! The program itself. It gathers what a run finds, lets the run take place, and carries out what
the run has done. There is no line to the platform, so requests reach nobody. -/

def settingVariables : List String :=
  ["ACCESS_TOKEN", "BUSINESS_ACCOUNT_ID", "API_VERSION", "BASE_URL", "TIMEOUT", "LOG_LEVEL",
    "LOG_JSON"].map fun name => "FORMFLOW_" ++ name

def gatherEnvironment : IO (List (String × String)) := do
  let found ← settingVariables.mapM fun name => do return (name, ← IO.getEnv name)
  return found.filterMap fun (name, value) => value.map fun value => (name, value)

def gatherPath (files : Files) (path : String) : IO Files := do
  let place := (← IO.currentDir) / path
  let names := Path.names path
  if ← place.isDir then return files.withDirectory names
  let around := "/".intercalate names.dropLast
  let files ←
    if ← ((← IO.currentDir) / around).isDir then pure (files.withDirectory names.dropLast)
    else pure files
  if ← place.pathExists then
    return files.put names (← IO.FS.readBinFile place).toList
  else return files

def gatherFiles (arguments : List String) : IO Files :=
  (dotenvName :: arguments).foldlM gatherPath .empty

def gatherInput (arguments : List String) : IO String := do
  if arguments.contains "delete" then (← IO.getStdin).readToEnd else return ""

def keepFiles (given files : Files) : IO Unit := do
  for file in files.all do
    if given.find? file.path ≠ some file then
      IO.FS.writeBinFile ((← IO.currentDir) / "/".intercalate file.path)
        (ByteArray.mk file.content.toArray)

def endingLine? : Ending → Option String
  | .exit _ => none
  | .misuse => some "Error: The command line makes no sense"
  | .invalidSettings names => some ("Error: Invalid settings: " ++ ", ".intercalate names)
  | .escaped _ => some "Error: The run could not go on"

def runProgram (arguments : List String) : IO UInt32 := do
  let files ← gatherFiles arguments
  let world : World := {
    arguments, files
    environment := ← gatherEnvironment
    input := ← gatherInput arguments
    reply := .unreachable "no connection" }
  let boundary := (← IO.getRandomBytes 16).toList.flatMap fun byte => Text.hex byte.toNat 2
  let (ending, session) := run world (String.ofList boundary)
  keepFiles files session.files
  IO.print session.output
  for line in session.log do IO.eprintln line.escaped
  IO.eprint session.errors
  for line in endingLine? ending do IO.eprintln line
  return UInt32.ofNat ending.code

end ScreenFlow.Command

def main (arguments : List String) : IO UInt32 := ScreenFlow.Command.runProgram arguments
