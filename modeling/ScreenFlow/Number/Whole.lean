import ScreenFlow.Text.Decimal
import ScreenFlow.Text.Hex

namespace ScreenFlow.Whole

/-! Whole numbers as text. A numeral to the base ten has at most 4300 digits, whether it is read or
written; numerals to a power of two have no limit, since they take no time worth speaking of. -/

def maxDigits : Nat := 4300

def isWritable (number : Int) : Bool := number.natAbs < Nat.pow 10 maxDigits

/-! ## Reading -/

/-- The digits of a numeral and what follows them. Single underscores may stand between digits, and
an underscore that does not belongs to what follows. -/
def splitDigits (isDigit : Char → Bool) : List Char → List Char × List Char
  | [] => ([], [])
  | character :: rest =>
      if isDigit character then
        match rest with
        | '_' :: next :: after =>
            if isDigit next then
              let (digits, rest) := splitDigits isDigit (next :: after)
              (character :: digits, rest)
            else ([character], rest)
        | rest =>
            let (digits, rest) := splitDigits isDigit rest
            (character :: digits, rest)
      else ([], character :: rest)

def ofDigits (base : Nat) (digits : List Char) : Nat :=
  digits.foldl (fun number digit => number * base + (Text.hexValue? digit).getD 0) 0

def isReadable (base count : Nat) : Bool := base != 10 || count ≤ maxDigits

def mark? : Nat → Option Char
  | 2 => some 'b'
  | 8 => some 'o'
  | 16 => some 'x'
  | _ => none

def skipMark (base : Nat) (text : List Char) : List Char :=
  match text with
  | '0' :: letter :: rest =>
      if mark? base = some letter.toLower then
        match rest with
        | '_' :: rest => rest
        | rest => rest
      else text
  | text => text

def isSpace (character : Char) : Bool :=
  character = ' ' || ('\t' ≤ character && character ≤ '\r')

def unsigned? (base : Nat) (text : List Char) : Option Nat :=
  let isDigit (character : Char) : Bool := (Text.hexValue? character).any (· < base)
  let (digits, rest) := splitDigits isDigit (skipMark base text)
  if !digits.isEmpty && rest.all isSpace && isReadable base digits.length then
    some (ofDigits base digits)
  else none

/-- The number of a numeral to a base. There may be space around it and a sign before it, and its
digits may be those of any script. -/
def read? (base : Nat) (text : List Char) : Option Int :=
  match (Text.plainNumeral text).dropWhile isSpace with
  | '-' :: rest => (unsigned? base rest).map fun size => -(size : Int)
  | '+' :: rest => (unsigned? base rest).map fun size => (size : Int)
  | rest => (unsigned? base rest).map fun size => (size : Int)

example : read? 10 " +8_080\n".toList = some 8080 := by decide +kernel
example : read? 10 "8__0".toList = none ∧ read? 10 "_8".toList = none := by decide +kernel
example : read? 16 "-0x_fF".toList = some (-255) := by decide +kernel
example : isWritable (10 ^ 4300 - 1) = true ∧ isWritable (10 ^ 4300) = false := by
  decide +kernel

end ScreenFlow.Whole
