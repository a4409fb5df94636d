import ScreenFlow.Log
import ScreenFlow.Number.Numeral
import ScreenFlow.Settings.Dotenv
import ScreenFlow.Text.Lowercase

namespace ScreenFlow

/-! Settings: access to the platform that keeps flows, and what is logged. -/

structure Settings where
  accessToken : Option String
  accountId : Option String
  apiVersion : String
  baseUrl : String
  timeout : Binary64
  logLevel : Log.Level
  logJson : Bool
  deriving DecidableEq, Repr

namespace Settings

def standard : Settings where
  accessToken := none
  accountId := none
  apiVersion := "v21.0"
  baseUrl := "https://graph.facebook.com"
  timeout := .ofInt 30
  logLevel := .info
  logJson := false

/-- The address below which the platform answers: slashes at the end of the base do not count. -/
def apiRoot (settings : Settings) : String :=
  let base := (settings.baseUrl.toList.reverse.dropWhile (· = '/')).reverse
  s!"{String.ofList base}/{settings.apiVersion}/"

/-! ## Kinds of values

A value has to be of the right kind for its setting. Texts stand for numbers and truth values. -/

def readText? (value : Value) : Option String := value.text?.bind Text.string?

def readOptionalText? : Value → Option (Option String)
  | .null => some none
  | value => (readText? value).map some

def readTimeout? (value : Value) : Option Binary64 := do
  let number ←
    match value with
    | .text content => content.string?.bind Numeral.read?
    | .int number =>
        match Binary64.ofInt number with
        | .infinity _ => none
        | number => some number
    | .float number => some number
    | .bool flag => some (.ofInt (if flag then 1 else 0))
    | _ => none
  if (Binary64.zero false).less number then some number else none

def readLevel? (value : Value) : Option Log.Level := (readText? value).bind Log.Level.ofName?

def flagOfWord? (word : String) : Option Bool :=
  let word := String.ofList (word.toList.map Char.toLower)
  if ["true", "1", "yes", "on", "t", "y"].contains word then some true
  else if ["false", "0", "no", "off", "f", "n"].contains word then some false
  else none

def readFlag? : Value → Option Bool
  | .bool flag => some flag
  | .text content => content.string?.bind flagOfWord?
  | .int number => if number = 0 then some false else if number = 1 then some true else none
  | .float number =>
      if number.isZero then some false
      else if number.same (.ofInt 1) then some true
      else none
  | _ => none

/-! ## Sources -/

abbrev Source := List (Text × Value)

/-- Given values. The case of their names does not count, and of several spellings of one name the
first one does. -/
def ofGiven (given : List (Text × Value)) : Source :=
  given.map fun (name, value) => (Text.lower name, value)

structure Search where
  start : Text
  exact : Bool
  skipsEmpty : Bool
  nullWord : Option Text
  readsFile : Bool
  deriving DecidableEq, Repr

namespace Search

def standard : Search := ⟨"FORMFLOW_", false, false, none, true⟩

def fold (search : Search) (name : Text) : Text :=
  if search.exact then name else Text.lower name

def valueOf (search : Search) (content : String) : Value :=
  if search.nullWord = some ↑content then .null else .text content

/-- The search that given values ask for. Their names begin with an underscore, and null asks for
nothing. -/
def ofGiven (given : List (Text × Value)) : Except Fault Search := do
  let find (name : Text) : Option Value :=
    (Ordered.find? name given).filter fun value => !value.isNull
  let flag (name : Text) : Bool := (find name).any Value.isGiven
  let start ←
    match find "_env_prefix" with
    | none => pure standard.start
    | some start => orFault .wrongKind start.text?
  let readsFile :=
    match Ordered.find? (↑"_env_file") given with
    | none => true
    | some file => namesFile file
  return {
    start, readsFile
    exact := flag "_case_sensitive"
    skipsEmpty := flag "_env_ignore_empty"
    nullWord := (find "_env_parse_none_str").bind Value.text? }
where
  namesFile : Value → Bool
    | .text name => name = ".env" || name = "./.env"
    | .list names => names.any fun name => [some (".env" : Text), some "./.env"].contains name.text?
    | _ => false

end Search

/-- The settings in a row of variables. Of several variables of one name the last one counts. A
variable without a value sets nothing. -/
def ofVariables (search : Search) (given : List (String × Option String)) : Source :=
  let kept := given.filter fun entry => !(search.skipsEmpty && entry.2 == some "")
  let table := Ordered.ofEntries (kept.map fun (name, value) => (search.fold name, value))
  let start := (search.fold search.start).toList
  table.filterMap fun (name, value) =>
    let characters := name.toList
    if start.isPrefixOf characters then
      value.map fun value => (⟨characters.drop start.length⟩, search.valueOf value)
    else none

def ofEnvironment (search : Search) (environment : List (String × String)) : Source :=
  ofVariables search (environment.map fun (name, value) => (name, some value))

def ofDotenv (search : Search) (environment : List (String × String)) (text : String) : Source :=
  ofVariables search (Dotenv.read environment text)

def find (sources : List Source) (name : Text) (read? : Value → Option α) (otherwise : α) :
    Option α :=
  match sources.findSome? (Ordered.find? name) with
  | some value => read? value
  | none => some otherwise

structure Partial where
  accessToken : Option (Option String)
  accountId : Option (Option String)
  apiVersion : Option String
  baseUrl : Option String
  timeout : Option Binary64
  logLevel : Option Log.Level
  logJson : Option Bool

namespace Partial

def ofSources (sources : List Source) : Partial where
  accessToken := find sources "access_token" readOptionalText? standard.accessToken
  accountId := find sources "business_account_id" readOptionalText? standard.accountId
  apiVersion := find sources "api_version" readText? standard.apiVersion
  baseUrl := find sources "base_url" readText? standard.baseUrl
  timeout := find sources "timeout" readTimeout? standard.timeout
  logLevel := find sources "log_level" readLevel? standard.logLevel
  logJson := find sources "log_json" readFlag? standard.logJson

def missing (settings : Partial) : List String :=
  [("access_token", settings.accessToken.isNone), ("api_version", settings.apiVersion.isNone),
    ("base_url", settings.baseUrl.isNone), ("business_account_id", settings.accountId.isNone),
    ("log_json", settings.logJson.isNone), ("log_level", settings.logLevel.isNone),
    ("timeout", settings.timeout.isNone)].filterMap fun (name, absent) =>
      if absent then some name else none

def whole? (settings : Partial) : Option Settings := do
  return {
    accessToken := ← settings.accessToken
    accountId := ← settings.accountId
    apiVersion := ← settings.apiVersion
    baseUrl := ← settings.baseUrl
    timeout := ← settings.timeout
    logLevel := ← settings.logLevel
    logJson := ← settings.logJson }

end Partial

/-- The settings that sources give, the first of them first, or the names of those that are given
wrongly. -/
def ofSources (sources : List Source) : Except (List String) Settings :=
  let settings := Partial.ofSources sources
  match settings.whole? with
  | some settings => .ok settings
  | none => .error settings.missing

/-- The settings that given values, the environment and a settings file make, in this order of
rank. -/
def gather (given : List (Text × Value)) (environment : List (String × String))
    (file : Option String) : Except Fault (Except (List String) Settings) := do
  let search ← Search.ofGiven given
  let file := if search.readsFile then file else none
  return ofSources ([ofGiven given, ofEnvironment search environment] ++
    file.toList.map (ofDotenv search environment))

example : (ofSources [ofEnvironment .standard [("FormFlow_Timeout", " 7 ")]]).toOption =
    some { standard with timeout := .ofInt 7 } := by decide +kernel
example : ofSources [[("log_level", .null), ("timeout", .int 0)]] =
    .error ["log_level", "timeout"] := by decide +kernel
example : gather [("TIMEOUT", .text "nan"), ("timeout", .int 3)] [] none =
    .ok (.error ["timeout"]) := by decide +kernel

end Settings

end ScreenFlow
