import ScreenFlow.Fault

namespace ScreenFlow

/-! The files that a program reads and writes. Paths lead from its working directory, and there is a
directory wherever a file lies below a path. -/

structure File where
  path : List String
  content : List UInt8
  deriving DecidableEq, Repr

structure Files where
  all : List File
  deriving DecidableEq, Repr

namespace Path

def root : String := "/"

def names (path : String) : List String :=
  let steps := ((path.toList.splitOn '/').map String.ofList).filter fun name =>
    name != "" && name != "."
  if path.toList.head? = some '/' then root :: steps else steps

def namesDirectory (path : String) : Bool :=
  match ((path.toList.splitOn '/').map String.ofList).getLast? with
  | some last => last == "" || last == "." || last == ".."
  | none => true

def lastName (path : String) : String := ((names path).getLast?).getD ""

/-- The end of a name from its last point on, unless the point is its first or last character. -/
def suffix (name : String) : String :=
  let characters := name.toList
  let ending := (characters.reverse.takeWhile (· ≠ '.')).reverse
  if ending.isEmpty || characters.length ≤ ending.length + 1 then ""
  else String.ofList ('.' :: ending)

example : names "./a//b.json" = ["a", "b.json"] := by decide +kernel
example : suffix "a.b.json" = ".json" := by decide +kernel
example : suffix ".json" = "" ∧ suffix "a." = "" ∧ suffix "json" = "" := by decide +kernel

end Path

namespace Files

def empty : Files := ⟨[]⟩

def find? (files : Files) (names : List String) : Option File :=
  files.all.find? fun file => file.path == names

def isDirectory (files : Files) (names : List String) : Bool :=
  names.isEmpty || names == [Path.root] ||
    files.all.any fun file => names.isPrefixOf file.path && names.length < file.path.length

/-- One name further from a directory. A step back undoes the last name; there is no way back from
the root, and from the working directory it is a name like any other. -/
def follow (reached : List String) (name : String) : List String :=
  if name = ".." && reached = [Path.root] then reached
  else if name = ".." && reached ≠ [] && reached.getLast? ≠ some ".." then reached.dropLast
  else reached ++ [name]

def resolve (files : Files) : List String → List String → Except Fault (List String)
  | reached, [] => .ok reached
  | reached, name :: names =>
      if files.isDirectory reached then resolve files (follow reached name) names
      else .error (if (files.find? reached).isSome then .notADirectory else .missingFile)

def locate (files : Files) (path : String) : Except Fault (List String) := do
  let reached ← files.resolve [] (Path.names path)
  if files.isDirectory reached then .error .notAFile else .ok reached

def read (files : Files) (path : String) : Except Fault (List UInt8) := do
  let names ← files.locate path
  match files.find? names with
  | some file => return file.content
  | none => .error .missingFile

def holds (files : Files) (path : String) : Bool :=
  !Path.namesDirectory path && (files.read path).toOption.isSome

/-- The files with one at the end of a row of names, in place of any that was there. -/
def put (files : Files) (names : List String) (content : List UInt8) : Files :=
  if (files.find? names).isSome then
    ⟨files.all.map fun file => if file.path = names then { file with content } else file⟩
  else ⟨files.all ++ [⟨names, content⟩]⟩

/-- The files after content was written to a path. The directory it leads through has to be
there. -/
def write (files : Files) (path : String) (content : List UInt8) : Except Fault Files := do
  let names ← files.locate path
  if files.isDirectory names.dropLast then return files.put names content
  else .error .missingFile

/-- Write what an operation makes to a path. The file is there, and empty, before the operation
begins. -/
def save (files : Files) (path : String) (content : Except Fault (List UInt8)) :
    Except Fault Unit × Files :=
  match files.write path [] with
  | .error fault => (.error fault, files)
  | .ok opened =>
      match content.bind (opened.write path) with
      | .error fault => (.error fault, opened)
      | .ok written => (.ok (), written)

def ofContents (contents : List (String × List UInt8)) : Files :=
  contents.foldl (fun files (path, content) => files.put (Path.names path) content) empty

/-- The files together with a directory that may hold none: a file without a name keeps it. -/
def withDirectory (files : Files) (names : List String) : Files := files.put (names ++ [""]) []

def without (files others : Files) : List File :=
  files.all.filter fun file => (others.find? file.path).isNone

def sample : Files := ofContents [("d/x", [1])]

example : sample.read "./d/../d/x" = .ok [1] := by decide +kernel
example : sample.read "d" = .error .notAFile := by decide +kernel
example : sample.read "../d/x" = .error .missingFile := by decide +kernel
example : sample.read "/../" = .error .notAFile := by decide +kernel
example : sample.read "d/x/y" = .error .notADirectory := by decide +kernel
example : sample.write "e/x" [] = .error .missingFile := by decide +kernel

end Files

end ScreenFlow
