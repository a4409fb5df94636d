import ScreenFlow.Yaml.Token

namespace ScreenFlow.Yaml

/-! Tags, which tell what kind of value a node stands for. A plain scalar without a tag gets one
from its form. -/

inductive Tag where
  | null
  | bool
  | int
  | float
  | text
  | timestamp
  | binary
  | sequence
  | mapping
  | set
  | orderedMapping
  | pairs
  | merge
  | value
  | unknown
  deriving DecidableEq, Repr

namespace Tag

def family : String := "tag:yaml.org,2002:"

def names : List (String × Tag) := [
  ("null", .null), ("bool", .bool), ("int", .int), ("float", .float), ("str", .text),
  ("timestamp", .timestamp), ("binary", .binary), ("seq", .sequence), ("map", .mapping),
  ("set", .set), ("omap", .orderedMapping), ("pairs", .pairs), ("merge", .merge),
  ("value", .value)]

def ofFull (full : String) : Tag :=
  ((names.find? fun entry => family ++ entry.1 == full).map Prod.snd).getD .unknown

/-! ## Forms of plain scalars -/

def isOctal (character : Char) : Bool := '0' ≤ character && character ≤ '7'

def isRun (accepts : Char → Bool) (content : List Char) : Bool :=
  !content.isEmpty && content.all fun character => accepts character || character = '_'

def isDigits : List Char → Bool
  | [] => false
  | first :: rest => first.isDigit && rest.all fun character => character.isDigit || character = '_'

def isSixtieth : List Char → Bool
  | [digit] => digit.isDigit
  | [first, second] => '0' ≤ first && first ≤ '5' && second.isDigit
  | _ => false

def unsigned : List Char → List Char
  | '+' :: rest => rest
  | '-' :: rest => rest
  | content => content

def splitColons (content : List Char) : List (List Char) :=
  content.splitOn ':'

def isSexagesimal (accepts : List Char → Bool) (content : List Char) : Bool :=
  match splitColons content with
  | first :: second :: rest => accepts first && (second :: rest).all isSixtieth
  | _ => false

def isNull (content : List Char) : Bool :=
  ["", "~", "null", "Null", "NULL"].contains (String.ofList content)

def isBool (content : List Char) : Bool :=
  ["yes", "Yes", "YES", "no", "No", "NO", "true", "True", "TRUE", "false", "False", "FALSE",
    "on", "On", "ON", "off", "Off", "OFF"].contains (String.ofList content)

def isInt (content : List Char) : Bool :=
  match unsigned content with
  | '0' :: 'b' :: digits => isRun (fun digit => digit = '0' || digit = '1') digits
  | '0' :: 'x' :: digits => isRun (fun digit => (Text.hexValue? digit).isSome) digits
  | ['0'] => true
  | '0' :: digits => isRun isOctal digits
  | first :: rest =>
      first ≠ '0' && (isDigits (first :: rest) || isSexagesimal isDigits (first :: rest))
  | [] => false

def isExponent : List Char → Bool
  | [] => true
  | mark :: sign :: digits =>
      (mark = 'e' || mark = 'E') && (sign = '+' || sign = '-') && !digits.isEmpty &&
        digits.all Char.isDigit
  | _ => false

def splitPoint? (content : List Char) : Option (List Char × List Char) :=
  match content.dropWhile (· ≠ '.') with
  | [] => none
  | _ :: after => some (content.takeWhile (· ≠ '.'), after)

/-- Numbers with a point: decimal, to the base sixty, infinities and the undefined number. Only
numbers with digits before the point may have a sign. -/
def isFloat (content : List Char) : Bool :=
  let isPart (character : Char) : Bool := character.isDigit || character = '_'
  let isWord (words : List String) (content : List Char) : Bool :=
    words.contains (String.ofList content)
  isWord [".inf", ".Inf", ".INF"] (unsigned content) || isWord [".nan", ".NaN", ".NAN"] content ||
    match splitPoint? (unsigned content) with
    | none => false
    | some (before, after) =>
        let fraction := after.takeWhile isPart
        let rest := after.dropWhile isPart
        if before.isEmpty then
          unsigned content == content && fraction.head?.any Char.isDigit && isExponent rest
        else
          (isDigits before && isExponent rest) || (isSexagesimal isDigits before && rest.isEmpty)

def withoutLineEnd (content : List Char) : List Char :=
  if content.getLast? = some '\n' then content.dropLast else content

/-- The kind of a text without a line feed at its end, by its form. Dates are told apart by
`isTimestamp`. -/
def ofForm (isTimestamp : List Char → Bool) (content : List Char) : Tag :=
  if isBool content then .bool
  else if isFloat content then .float
  else if isInt content then .int
  else if content = ['<', '<'] then .merge
  else if isNull content then .null
  else if isTimestamp content then .timestamp
  else if content = ['='] then .value
  else if content = ['!'] || content = ['&'] || content = ['*'] then .unknown
  else .text

/-- The kind of a plain scalar, by its form. A line feed at the end does not count, unless there is
nothing else. -/
def ofPlain (isTimestamp : List Char → Bool) (content : List Char) : Tag :=
  if content = ['\n'] then .text else ofForm isTimestamp (withoutLineEnd content)

end Tag

end ScreenFlow.Yaml
