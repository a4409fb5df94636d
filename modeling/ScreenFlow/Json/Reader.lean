import ScreenFlow.Number.Whole
import ScreenFlow.Text.Utf16
import ScreenFlow.Value.Same

namespace ScreenFlow.Json

/-! Reading JSON text. The reader is strict about control characters and trailing text, accepts the
names of the infinities and of the undefined number, and reports the place of the first fault. A
whole number with too many digits is a fault as well, and so are collections inside each other on too
many levels. -/

inductive Complaint where
  | value
  | propertyName
  | colon
  | comma
  | unterminatedText
  | controlCharacter
  | escape
  | unicodeEscape
  | extraData
  | byteOrderMark
  | longNumber
  | nesting
  deriving DecidableEq, Repr

def Complaint.message : Complaint → String
  | .value => "Expecting value"
  | .propertyName => "Expecting property name enclosed in double quotes"
  | .colon => "Expecting ':' delimiter"
  | .comma => "Expecting ',' delimiter"
  | .unterminatedText => "Unterminated string starting at"
  | .controlCharacter => "Invalid control character at"
  | .escape => "Invalid \\escape"
  | .unicodeEscape => "Invalid \\uXXXX escape"
  | .extraData => "Extra data"
  | .byteOrderMark => "Unexpected UTF-8 BOM (decode using utf-8-sig)"
  | .longNumber => "Number with too many digits"
  | .nesting => "Too many levels of nesting"

structure ReadError where
  complaint : Complaint
  offset : Nat
  line : Nat
  column : Nat
  deriving DecidableEq, Repr

namespace ReadError

/-- A complaint about a place in a text. Lines end with a line feed; lines and columns count from
one. -/
def place (complaint : Complaint) (text : List Point) (offset : Nat) : ReadError :=
  let before := text.take offset
  { complaint, offset
    line := before.count (.char '\n') + 1
    column := (before.reverse.takeWhile (· ≠ .char '\n')).length + 1 }

def message (error : ReadError) : String :=
  s!"{error.complaint.message}: line {error.line} column {error.column} (char {error.offset})"

end ReadError

abbrev Stuck := Complaint × List Point

def isSpace (point : Point) : Bool :=
  point = ' ' || point = '\t' || point = '\n' || point = '\r'

def skipSpace (text : List Point) : List Point := text.dropWhile isSpace

/-! ## Strings -/

def digit? (point : Point) : Option Nat := point.char?.bind Text.hexValue?

def unit? (first second third fourth : Point) : Option Nat := do
  let first ← digit? first
  let second ← digit? second
  let third ← digit? third
  let fourth ← digit? fourth
  return ((first * 16 + second) * 16 + third) * 16 + fourth

def escaped? : Point → Option Char
  | .char '"' => some '"'
  | .char '\\' => some '\\'
  | .char '/' => some '/'
  | .char 'b' => some '\x08'
  | .char 'f' => some '\x0c'
  | .char 'n' => some '\n'
  | .char 'r' => some '\r'
  | .char 't' => some '\t'
  | _ => none

/-- A code unit that was escaped, before what was read of the text after it. A high surrogate makes
a pair with a low one that is escaped right after it. -/
def joinUnit (unit : Nat) (text points : List Point) : List Point :=
  match text, points with
  | .char '\\' :: .char 'u' :: _, next :: later =>
      if Text.Utf16.isHighSurrogate unit && Text.Utf16.isLowSurrogate next.toNat then
        Text.Utf16.joinSurrogates unit next.toNat :: later
      else .ofNat unit :: points
  | _, _ => .ofNat unit :: points

def extend (change : List Point → List Point) (reading : Except Stuck (List Point × List Point)) :
    Except Stuck (List Point × List Point) :=
  reading.map fun (points, rest) => (change points, rest)

/-- A string up to its closing quote. `start` is the text from the opening quote. An escaped code
unit has to be followed by at least one more character. -/
def readText (start : List Point) : List Point → Except Stuck (List Point × List Point)
  | [] => .error (.unterminatedText, start)
  | .char '"' :: rest => .ok ([], rest)
  | [.char '\\'] => .error (.unterminatedText, start)
  | .char '\\' :: .char 'u' :: a :: b :: c :: d :: rest =>
      match unit? a b c d, rest with
      | some unit, _ :: _ => extend (joinUnit unit rest) (readText start rest)
      | _, _ => .error (.unicodeEscape, 'u' :: a :: b :: c :: d :: rest)
  | .char '\\' :: .char 'u' :: rest => .error (.unicodeEscape, 'u' :: rest)
  | .char '\\' :: point :: rest =>
      match escaped? point with
      | some meant => extend (meant :: ·) (readText start rest)
      | none => .error (.escape, '\\' :: point :: rest)
  | point :: rest =>
      if point.toNat < 0x20 then .error (.controlCharacter, point :: rest)
      else extend (point :: ·) (readText start rest)
  termination_by structural text => text

/-! ## Numbers -/

def natOfDigits (digits : List Point) : Nat :=
  digits.foldl (fun number digit => number * 10 + (digit.toNat - 48)) 0

def readFraction : List Point → List Point × List Point
  | .char '.' :: rest =>
      let digits := rest.takeWhile Point.isDigit
      if digits.isEmpty then ([], '.' :: rest) else (digits, rest.dropWhile Point.isDigit)
  | text => ([], text)

def readExponent (text : List Point) : Option Int × List Point :=
  match text with
  | mark :: rest =>
      if mark = .char 'e' || mark = .char 'E' then
        let (negative, after) :=
          match rest with
          | .char '-' :: after => (true, after)
          | .char '+' :: after => (false, after)
          | after => (false, after)
        let digits := after.takeWhile Point.isDigit
        if digits.isEmpty then (none, text)
        else
          let size : Int := natOfDigits digits
          (some (if negative then -size else size), after.dropWhile Point.isDigit)
      else (none, text)
  | [] => (none, [])

def readWhole : List Point → Option (List Point × List Point)
  | .char '0' :: rest => some (['0'], rest)
  | text =>
      let digits := text.takeWhile Point.isDigit
      if digits.isEmpty then none else some (digits, text.dropWhile Point.isDigit)

/-- A number after its sign: a whole number unless a fraction or an exponent follows. `start` is the
text from the sign on. -/
def readUnsigned (negative : Bool) (start text : List Point) :
    Except Stuck (Value × List Point) :=
  match readWhole text with
  | none => .error (.value, start)
  | some (whole, afterWhole) =>
      let (fraction, afterFraction) := readFraction afterWhole
      let (exponent, rest) := readExponent afterFraction
      if fraction.isEmpty && exponent.isNone then
        if Whole.isReadable 10 whole.length then
          let size : Int := natOfDigits whole
          .ok (.int (if negative then -size else size), rest)
        else .error (.longNumber, start)
      else
        let digits := natOfDigits (whole ++ fraction)
        let number := Binary64.ofDecimal negative digits (exponent.getD 0 - fraction.length)
        .ok (.float number, rest)

def readWord (word : Text) (value : Value) (text : List Point) :
    Except Stuck (Value × List Point) :=
  if word.toList.isPrefixOf text then .ok (value, text.drop word.length) else .error (.value, text)

def readScalar (text : List Point) : Except Stuck (Value × List Point) :=
  match text with
  | .char 'n' :: _ => readWord "null" .null text
  | .char 't' :: _ => readWord "true" (.bool true) text
  | .char 'f' :: _ => readWord "false" (.bool false) text
  | .char 'N' :: _ => readWord "NaN" (.float .nan) text
  | .char 'I' :: _ => readWord "Infinity" (.float (.infinity false)) text
  | .char '-' :: .char 'I' :: _ => readWord "-Infinity" (.float (.infinity true)) text
  | .char '-' :: rest => readUnsigned true text rest
  | _ => readUnsigned false text text

/-! ## Collections -/

def maxNesting : Nat := 990

mutual

/-- One value at the head of a text, with collections on at most `levels` levels. Each step takes one
unit of `fuel`. -/
def readValue (levels : Nat) : Nat → List Point → Except Stuck (Value × List Point)
  | 0, text => .error (.value, text)
  | fuel + 1, text =>
      match text, levels with
      | .char '"' :: rest, _ => do
          let (content, rest) ← readText text rest
          return (.text ⟨content⟩, rest)
      | .char '[' :: rest, levels + 1 =>
          match skipSpace rest with
          | .char ']' :: rest => .ok (.list [], rest)
          | rest => do
              let (items, rest) ← readItems levels fuel rest
              return (.list items, rest)
      | .char '\x7b' :: rest, levels + 1 =>
          match skipSpace rest with
          | .char '\x7d' :: rest => .ok (.map [], rest)
          | rest => do
              let (entries, rest) ← readEntries levels fuel [] rest
              return (.map entries, rest)
      | .char '[' :: _, 0 | .char '\x7b' :: _, 0 => .error (.nesting, text)
      | text, _ => readScalar text
termination_by structural fuel => fuel

def readItems (levels : Nat) : Nat → List Point → Except Stuck (List Value × List Point)
  | 0, text => .error (.value, text)
  | fuel + 1, text => do
      let (item, rest) ← readValue levels fuel text
      match skipSpace rest with
      | .char ']' :: rest => return ([item], rest)
      | .char ',' :: rest =>
          let (items, rest) ← readItems levels fuel (skipSpace rest)
          return (item :: items, rest)
      | rest => .error (.comma, rest)
termination_by structural fuel => fuel

/-- The entries of an object from the first key to the closing brace. A repeated key keeps its
place and takes the later value. -/
def readEntries (levels : Nat) : Nat → List (Value × Value) → List Point →
    Except Stuck (List (Value × Value) × List Point)
  | 0, _, text => .error (.value, text)
  | fuel + 1, entries, text => do
      match text with
      | .char '"' :: rest =>
          let (key, rest) ← readText text rest
          match skipSpace rest with
          | .char ':' :: rest =>
              let (value, rest) ← readValue levels fuel (skipSpace rest)
              let entries := Value.insertEntry (.text ⟨key⟩) value entries
              match skipSpace rest with
              | .char '\x7d' :: rest => return (entries, rest)
              | .char ',' :: rest => readEntries levels fuel entries (skipSpace rest)
              | rest => .error (.comma, rest)
          | rest => .error (.colon, rest)
      | text => .error (.propertyName, text)
termination_by structural fuel => fuel

end

def readAll (text : List Point) : Except Stuck Value :=
  if text.head? = some (.char '\ufeff') then .error (.byteOrderMark, text)
  else do
    let (value, rest) ← readValue maxNesting (2 * text.length + 2) (skipSpace text)
    match skipSpace rest with
    | [] => return value
    | rest => .error (.extraData, rest)

def read (text : Text) : Except ReadError Value :=
  (readAll text.toList).mapError fun (complaint, rest) =>
    ReadError.place complaint text.toList (text.length - rest.length)

example : (read "[1, 2.5e1, \"a\\u00e9\"]").toOption =
    some (.list [.int 1, .float (.ofDecimal false 25 0), .text "aé"]) := by decide +kernel
example : (read "[1,]").toOption = none := by decide +kernel
example : (read "\"\\ud83d\\ude00\\ude00\"").toOption =
    some (.text ⟨['😀', .surrogate 0x600]⟩) := by decide +kernel

end ScreenFlow.Json
