import ScreenFlow.Number.Binary64
import ScreenFlow.Text.Blank

namespace ScreenFlow.Numeral

/-! Numerals as settings give them: an optional sign, then digits with at most one point among or
around them and an optional exponent, or a word for an infinity or the undefined number. -/

def ofDigits (digits : List Char) : Nat :=
  digits.foldl (fun number digit => number * 10 + (digit.toNat - 48)) 0

def readSign : List Char → Bool × List Char
  | '-' :: rest => (true, rest)
  | '+' :: rest => (false, rest)
  | text => (false, text)

def exponent? : List Char → Option Int
  | [] => some 0
  | mark :: rest =>
      let (negative, digits) := readSign rest
      if (mark = 'e' || mark = 'E') && !digits.isEmpty && digits.all Char.isDigit then
        let size : Int := ofDigits digits
        some (if negative then -size else size)
      else none

def unsigned? (negative : Bool) (text : List Char) : Option Binary64 :=
  let word := text.map Char.toLower
  if word = "nan".toList then some .nan
  else if word = "inf".toList || word = "infinity".toList then some (.infinity negative)
  else
    let whole := text.takeWhile Char.isDigit
    let afterWhole := text.dropWhile Char.isDigit
    let (fraction, rest) :=
      match afterWhole with
      | '.' :: rest => (rest.takeWhile Char.isDigit, rest.dropWhile Char.isDigit)
      | rest => ([], rest)
    if whole.isEmpty && fraction.isEmpty then none
    else
      (exponent? rest).map fun exponent =>
        .ofDecimal negative (ofDigits (whole ++ fraction)) (exponent - fraction.length)

def number? (text : List Char) : Option Binary64 :=
  let (negative, rest) := readSign text
  unsigned? negative rest

def isSpace (character : Char) : Bool :=
  Text.isBlank character && !('\x1c' ≤ character && character ≤ '\x1f')

def trim (text : List Char) : List Char :=
  ((text.dropWhile isSpace).reverse.dropWhile isSpace).reverse

def underscoresWithin : List Char → Bool
  | [] => true
  | ['_'] => false
  | '_' :: '_' :: _ => false
  | _ :: rest => underscoresWithin rest

/-- The number that a numeral stands for. There may be space around it or single underscores
within, but not both. -/
def read? (text : String) : Option Binary64 :=
  let characters := text.toList
  match number? (trim characters) with
  | some number => some number
  | none =>
      if characters.head? ≠ some '_' && underscoresWithin characters then
        number? (characters.filter (· ≠ '_'))
      else none

example : read? " 7 " = some (.ofInt 7) := by decide +kernel
example : read? "1_0.5e-1" = some (.ofDecimal false 105 (-2)) := by decide +kernel
example : read? "_1" = none ∧ read? "" = none ∧ read? "." = none := by decide +kernel

end ScreenFlow.Numeral
