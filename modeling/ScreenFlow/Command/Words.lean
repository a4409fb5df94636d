namespace ScreenFlow.Command

/-! The words of a command line. Options begin with a dash and may take a value; after two dashes
alone no word is an option any more. -/

/-- An option: its name after two dashes, a letter that stands for it after one, and whether it
takes a value. -/
structure Switch where
  name : String
  letter : Option Char
  takesValue : Bool
  deriving DecidableEq, Repr

structure Given where
  name : String
  value : Option String
  deriving DecidableEq, Repr

structure Words where
  options : List Given
  others : List String
  deriving DecidableEq, Repr

namespace Words

def has (words : Words) (name : String) : Bool := words.options.any fun given => given.name == name

def values (words : Words) (name : String) : List String :=
  words.options.filterMap fun given => if given.name = name then given.value else none

def value? (words : Words) (name : String) : Option String := (words.values name).getLast?

end Words

/-- What a word says about options: nothing, options that are complete, or an option that still
needs its value after others that are complete. -/
inductive Reading where
  | complete (options : List Given)
  | waiting (options : List Given) (option : Switch)
  deriving DecidableEq, Repr

/-- The options of a row of letters. The rest of the row is the value of an option that takes
one. -/
def readLetters (switches : List Switch) : List Char → Option Reading
  | [] => some (.complete [])
  | letter :: rest => do
      let switch ← switches.find? fun switch => switch.letter == some letter
      if switch.takesValue then
        if rest.isEmpty then return .waiting [] switch
        else return .complete [⟨switch.name, some (String.ofList rest)⟩]
      else
        match ← readLetters switches rest with
        | .complete options => return .complete (⟨switch.name, none⟩ :: options)
        | .waiting options option => return .waiting (⟨switch.name, none⟩ :: options) option

/-- The option of a word that begins with two dashes; its value may follow an equals sign. -/
def readName (switches : List Switch) (word : List Char) : Option Reading := do
  let name := String.ofList (word.takeWhile (· ≠ '='))
  let switch ← switches.find? fun switch => switch.name == name
  if word.contains '=' then
    let value := String.ofList ((word.dropWhile (· ≠ '=')).drop 1)
    if switch.takesValue then return .complete [⟨switch.name, some value⟩] else none
  else if switch.takesValue then return .waiting [] switch
  else return .complete [⟨switch.name, none⟩]

/-- The options of a word, none if it is no option. There is no result for unknown options. -/
def readWord (switches : List Switch) (word : String) : Option (Option Reading) :=
  match word.toList with
  | '-' :: '-' :: name => (readName switches name).map some
  | '-' :: letter :: letters => (readLetters switches (letter :: letters)).map some
  | _ => some none

/-- The words of a command line, in which an option may still need its value. Options stand only
before the first other word, unless they may be mixed. There is no result if a value is missing. -/
def readWords (switches : List Switch) (mixed : Bool) :
    Option Switch → List String → Option Words
  | some _, [] => none
  | none, [] => some ⟨[], []⟩
  | some switch, value :: rest => do
      let words ← readWords switches mixed none rest
      return { words with options := ⟨switch.name, some value⟩ :: words.options }
  | none, word :: rest => do
      if word = "--" then return ⟨[], rest⟩
      else
        match ← readWord switches word with
        | some (.complete options) =>
            let words ← readWords switches mixed none rest
            return { words with options := options ++ words.options }
        | some (.waiting options switch) =>
            let words ← readWords switches mixed (some switch) rest
            return { words with options := options ++ words.options }
        | none =>
            if mixed then
              let words ← readWords switches mixed none rest
              return { words with others := word :: words.others }
            else return ⟨[], word :: rest⟩

def sample : List Switch := [⟨"output", some 'o', true⟩, ⟨"detailed", none, false⟩]

example : readWords sample true none ["a", "-ox", "--output=y", "b", "--detailed"] =
    some ⟨[⟨"output", some "x"⟩, ⟨"output", some "y"⟩, ⟨"detailed", none⟩], ["a", "b"]⟩ := by
  decide +kernel
example : readWords sample false none ["a", "-z"] = some ⟨[], ["a", "-z"]⟩ := by decide +kernel
example : readWords sample true none ["a", "--output"] = none := by decide +kernel

end ScreenFlow.Command
