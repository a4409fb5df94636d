import ScreenFlow.Number.Binary64

namespace ScreenFlow

/-! Decimal text of a floating point number: the fewest digits that read back as the same number,
and of those the ones nearest to it. -/

structure Decimal where
  digits : Nat
  exponent : Int
  deriving DecidableEq, Repr

namespace Decimal

/-- The largest multiple of `10 ^ exponent` that is not above `numerator / denominator`, as a
count. -/
def floorAt (numerator denominator : Nat) : Int → Nat
  | .ofNat exponent => numerator / (denominator * Nat.pow 10 exponent)
  | .negSucc exponent => numerator * Nat.pow 10 (exponent + 1) / denominator

/-- Twice the distance of the quotient above `count · 10 ^ exponent`, compared with one step of
that grid. -/
def compareHalf (numerator denominator count : Nat) : Int → Ordering
  | .ofNat exponent =>
      compare (2 * numerator) ((2 * count + 1) * denominator * Nat.pow 10 exponent)
  | .negSucc exponent =>
      compare (2 * numerator * Nat.pow 10 (exponent + 1)) ((2 * count + 1) * denominator)

def leading (numerator denominator : Nat) : Int :=
  let guess : Int := ((Nat.log2 numerator : Int) - Nat.log2 denominator) * 30103 / 100000 - 1
  if floorAt numerator denominator (guess + 2) > 0 then guess + 2
  else if floorAt numerator denominator (guess + 1) > 0 then guess + 1
  else guess

/-- Of the two neighbours of the quotient on the grid of `10 ^ exponent`, the nearest one that
reads back as the number; a tie goes to the even count. -/
def onGrid? (number : Binary64) (numerator denominator : Nat) (exponent : Int) : Option Decimal :=
  let below := floorAt numerator denominator exponent
  let readsBack (count : Nat) := decide (Binary64.ofDecimal false count exponent = number)
  let (near, far) :=
    match compareHalf numerator denominator below exponent with
    | .lt => (below, below + 1)
    | .gt => (below + 1, below)
    | .eq => if below % 2 = 0 then (below, below + 1) else (below + 1, below)
  if readsBack near then some ⟨near, exponent⟩
  else if readsBack far then some ⟨far, exponent⟩
  else none

/-- A decimal reading back as the number, on the coarsest grid that holds one. Behind the last grid,
on which every number is told from its neighbours, the count is at least one. -/
def firstGrid (number : Binary64) (numerator denominator : Nat) (exponent : Int) : Nat → Decimal
  | 0 => ⟨max 1 (floorAt numerator denominator exponent), exponent⟩
  | steps + 1 =>
      match onGrid? number numerator denominator exponent with
      | some decimal => decimal
      | none => firstGrid number numerator denominator (exponent - 1) steps

def shortest (significand : Nat) (exponent : Int) : Decimal :=
  let (numerator, denominator) :=
    match exponent with
    | .ofNat power => (significand * Nat.pow 2 power, 1)
    | .negSucc power => (significand, Nat.pow 2 (power + 1))
  firstGrid (.finite false significand exponent) numerator denominator
    (leading numerator denominator) 17

end Decimal

structure NumberFormat where
  leastPositional : Int
  positionalEnd : Int
  exponentDigits : Nat
  undefinedText : String
  infinityText : String

namespace NumberFormat

def digitText (number : Nat) : List Char := (toString number).toList

def significantDigits (digits : List Char) : List Char :=
  (digits.reverse.dropWhile (· = '0')).reverse

def positional (digits : List Char) (leading : Int) : List Char :=
  match leading with
  | .ofNat whole =>
      let padded := digits ++ List.replicate (whole + 1 - digits.length) '0'
      let fraction := padded.drop (whole + 1)
      padded.take (whole + 1) ++ '.' :: (if fraction.isEmpty then ['0'] else fraction)
  | .negSucc zeros => '0' :: '.' :: (List.replicate zeros '0' ++ digits)

def scientific (format : NumberFormat) (digits : List Char) (leading : Int) : List Char :=
  let exponent := digitText leading.natAbs
  let padding := List.replicate (format.exponentDigits - exponent.length) '0'
  let fraction := digits.drop 1
  digits.take 1 ++ (if fraction.isEmpty then [] else '.' :: fraction) ++
    'e' :: (if leading < 0 then '-' else '+') :: (padding ++ exponent)

def render (format : NumberFormat) : Binary64 → String
  | .nan => format.undefinedText
  | .infinity negative => (if negative then "-" else "") ++ format.infinityText
  | .finite negative significand exponent =>
      let digits : List Char :=
        if significand = 0 then ['0', '.', '0']
        else
          let decimal := Decimal.shortest significand exponent
          let written := digitText decimal.digits
          let leading := decimal.exponent + written.length - 1
          let digits := significantDigits written
          if format.leastPositional ≤ leading ∧ leading < format.positionalEnd then
            positional digits leading
          else format.scientific digits leading
      String.ofList (if negative then '-' :: digits else digits)

def display : NumberFormat where
  leastPositional := -4
  positionalEnd := 16
  exponentDigits := 2
  undefinedText := "nan"
  infinityText := "inf"

example : display.render (.ofDecimal false 1 (-1)) = "0.1" := by decide +kernel
example : display.render (.ofDecimal false 1 16) = "1e+16" := by decide +kernel
example : display.render (.ofDecimal true 5 (-324)) = "-5e-324" := by decide +kernel

end NumberFormat

end ScreenFlow
