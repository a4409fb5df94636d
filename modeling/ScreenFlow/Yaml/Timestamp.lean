import ScreenFlow.Calendar
import ScreenFlow.Fault
import ScreenFlow.Number.Numeral

namespace ScreenFlow.Yaml

/-! Dates and moments in YAML text. -/

structure WrittenTime where
  hour : List Char
  minute : List Char
  second : List Char
  fraction : List Char
  zone : Option (Option (Char × List Char × List Char))
  deriving DecidableEq, Repr

structure WrittenTimestamp where
  year : List Char
  month : List Char
  day : List Char
  time : Option WrittenTime
  deriving DecidableEq, Repr

namespace WrittenTimestamp

def shortNumber? : List Char → Option (List Char × List Char)
  | first :: second :: rest =>
      if first.isDigit then
        if second.isDigit then some ([first, second], rest) else some ([first], second :: rest)
      else none
  | [first] => if first.isDigit then some ([first], []) else none
  | [] => none

def digits? (count : Nat) (text : List Char) : Option (List Char × List Char) :=
  let digits := text.take count
  if digits.length = count ∧ digits.all Char.isDigit then some (digits, text.drop count) else none

def after? (character : Char) : List Char → Option (List Char)
  | head :: rest => if head = character then some rest else none
  | [] => none

def isBlank (character : Char) : Bool := character = ' ' || character = '\t'

def zone? (text : List Char) : Option (Option (Option (Char × List Char × List Char))) :=
  if text.isEmpty then some none
  else
    match text.dropWhile isBlank with
    | ['Z'] => some (some none)
    | sign :: rest => do
        guard (sign = '+' ∨ sign = '-')
        let (hours, rest) ← shortNumber? rest
        if rest.isEmpty then return some (some (sign, hours, ['0']))
        let (minutes, rest) ← digits? 2 (← after? ':' rest)
        guard rest.isEmpty
        return some (some (sign, hours, minutes))
    | [] => none

def time? (text : List Char) : Option WrittenTime := do
  let (hour, rest) ← shortNumber? text
  let (minute, rest) ← digits? 2 (← after? ':' rest)
  let (second, rest) ← digits? 2 (← after? ':' rest)
  let (fraction, rest) :=
    match after? '.' rest with
    | some rest => (rest.takeWhile Char.isDigit, rest.dropWhile Char.isDigit)
    | none => ([], rest)
  return { hour, minute, second, fraction, zone := ← zone? rest }

def separated? : List Char → Option (List Char)
  | [] => none
  | head :: rest =>
      if head = 'T' ∨ head = 't' then some rest
      else if isBlank head then some (rest.dropWhile isBlank)
      else none

def parse? (text : List Char) : Option WrittenTimestamp := do
  let (year, rest) ← digits? 4 text
  let (month, rest) ← shortNumber? (← after? '-' rest)
  let (day, rest) ← shortNumber? (← after? '-' rest)
  if rest.isEmpty then return { year, month, day, time := none }
  return { year, month, day, time := ← time? (← separated? rest) }

/-- Whether a plain scalar is read as a timestamp. A date alone has two digits for its month and
for its day. -/
def isTimestamp (text : List Char) : Bool :=
  (parse? text).any fun written =>
    written.time.isSome || (written.month.length = 2 && written.day.length = 2)

def microseconds (fraction : List Char) : Nat :=
  let digits := fraction.take 6
  Numeral.ofDigits (digits ++ List.replicate (6 - digits.length) '0')

def offset : Option (Char × List Char × List Char) → Int
  | none => 0
  | some (sign, hours, minutes) =>
      let size : Int := Numeral.ofDigits hours * 60 + Numeral.ofDigits minutes
      if sign = '-' then -size else size

def toValue (written : WrittenTimestamp) : Except Fault Value := do
  let number := Numeral.ofDigits
  let date ← orFault .badValue
    (Date.ofParts? (number written.year) (number written.month) (number written.day))
  match written.time with
  | none => return .date date
  | some time =>
      let moment ← orFault .badValue (Moment.ofParts? date (number time.hour)
        (number time.minute) (number time.second) (microseconds time.fraction)
        (time.zone.map offset))
      return .moment moment

example : isTimestamp "2001-12-14t21:59:43.10-05:00".toList = true := by decide +kernel
example : isTimestamp "2001-1-1".toList = false := by decide +kernel

end WrittenTimestamp

end ScreenFlow.Yaml
