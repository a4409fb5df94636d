import ScreenFlow.Text.Base64
import ScreenFlow.Text.Lowercase
import ScreenFlow.Yaml.Tag
import ScreenFlow.Yaml.Timestamp

namespace ScreenFlow.Yaml

/-! The values of scalar nodes. Numbers may be written to several bases, with underscores among their
digits and with the digits of any script. A scalar whose tag asks for a form that it does not have is
a fault, and not the same one for every tag. -/

namespace Scalar

/-- The sign in front of a number and the text after it. A number without characters has neither. -/
def splitSign (text : List Char) : Except Fault (Bool × List Char) :=
  match text with
  | [] => .error .outOfRange
  | '-' :: rest => .ok (true, rest)
  | '+' :: rest => .ok (false, rest)
  | _ => .ok (false, text)

def withoutUnderscores (text : List Char) : List Char := text.filter (· ≠ '_')

def intOfBase (base : Nat) (text : List Char) : Except Fault Int :=
  orFault .badValue (Whole.read? base text)

def unsignedInt (text : List Char) : Except Fault Int :=
  match text with
  | [] => .error .outOfRange
  | ['0'] => .ok 0
  | '0' :: 'b' :: digits => intOfBase 2 digits
  | '0' :: 'x' :: digits => intOfBase 16 digits
  | '0' :: _ => intOfBase 8 text
  | _ => do
      let parts ← (Tag.splitColons text).mapM (intOfBase 10)
      return parts.foldl (fun number part => number * 60 + part) 0

def int (content : List Char) : Except Fault Int := do
  let (negative, text) ← splitSign (withoutUnderscores content)
  let size ← unsignedInt text
  return if negative then -size else size

def decimal? (text : List Char) : Option (Nat × Int) := do
  let whole := text.takeWhile Char.isDigit
  let rest := text.dropWhile Char.isDigit
  let (fraction, rest) :=
    match rest with
    | '.' :: rest => (rest.takeWhile Char.isDigit, rest.dropWhile Char.isDigit)
    | rest => ([], rest)
  guard (!(whole ++ fraction).isEmpty)
  let (exponent, rest) := Json.readExponent (rest.map .char)
  guard rest.isEmpty
  return (Numeral.ofDigits (whole ++ fraction), exponent.getD 0 - fraction.length)

def trim (text : List Char) : List Char :=
  ((text.dropWhile Whole.isSpace).reverse.dropWhile Whole.isSpace).reverse

def float? (text : List Char) : Option Binary64 :=
  let text := trim (Text.plainNumeral text)
  let (negative, unsigned) :=
    match text with
    | '-' :: rest => (true, rest)
    | '+' :: rest => (false, rest)
    | _ => (false, text)
  let word := String.ofList unsigned
  if word = "inf" ∨ word = "infinity" then some (.infinity negative)
  else if word = "nan" then some .nan
  else (decimal? unsigned).map fun (digits, exponent) => .ofDecimal negative digits exponent

/-- Numbers to the base sixty, least one first, each weighted with a power of the base. A power may
be too large for a floating point number. -/
def sixtieths (sum : Binary64) (base : Int) : List Binary64 → Except Fault Binary64
  | [] => .ok sum
  | part :: rest =>
      match Binary64.ofInt base with
      | .infinity _ => .error .overflow
      | weight => sixtieths (sum.add (part.mul weight)) (base * 60) rest

def unsignedFloat (text : List Char) : Except Fault Binary64 :=
  if text = ".inf".toList then .ok (.infinity false)
  else if text = ".nan".toList then .ok .nan
  else if text.contains ':' then do
    let parts ← (Tag.splitColons text).mapM fun part => orFault .badValue (float? part)
    sixtieths (.zero false) 1 parts.reverse
  else orFault .badValue (float? text)

def lowered (content : List Char) : List Char :=
  (Text.lower (String.ofList (withoutUnderscores content))).lossy.toList

def isUndefined (content : Text) : Bool :=
  Tag.unsigned (lowered content.lossy.toList) == ".nan".toList

def float (content : List Char) : Except Fault Binary64 := do
  let (negative, text) ← splitSign (lowered content)
  let size ← unsignedFloat text
  return if negative then size.negate else size

def bool (content : Text) : Except Fault Bool :=
  let word := Text.lower content
  if [("yes" : Text), "true", "on"].contains word then .ok true
  else if [("no" : Text), "false", "off"].contains word then .ok false
  else .error .unknownWord

def binary (content : List Char) : Except Fault (List UInt8) :=
  if content.all (·.toNat < 128) then
    orFault malformed (Text.Base64.decode? content)
  else refuse

def timestamp (content : List Char) : Except Fault Value := do
  (← orFault .missingPart (WrittenTimestamp.parse? (Tag.withoutLineEnd content))).toValue

/-- The value of a scalar with a tag. A tag of a collection does not fit, and a tag of no kind fits
nothing. A surrogate is no part of any form but a text, and neither is the replacement character. -/
def toValue (tag : Tag) (content : Text) : Except Fault Value :=
  let characters := content.lossy.toList
  match tag with
  | .null => .ok .null
  | .bool => (bool content).map .bool
  | .int => (int characters).map .int
  | .float => (float characters).map .float
  | .text => .ok (.text content)
  | .timestamp => timestamp characters
  | .binary => (binary characters).map .bytes
  | _ => refuse

example : int "0x_ff".toList = .ok 255 := by decide +kernel
example : int "-1:30".toList = .ok (-90) := by decide +kernel
example : int "0o17\n".toList = .ok 15 := by decide +kernel
example : bool "YES" = .ok true := by decide +kernel

end Scalar

end ScreenFlow.Yaml
