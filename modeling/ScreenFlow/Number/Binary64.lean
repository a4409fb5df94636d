namespace ScreenFlow

/-! Binary floating point numbers with a 53-bit significand and exact rounding. Every finite number
has one representation: its significand fills 53 bits unless the exponent is already the least
one. -/

/-- A number `± significand · 2 ^ exponent`, an infinity, or the undefined number. -/
inductive Binary64 where
  | nan
  | infinity (negative : Bool)
  | finite (negative : Bool) (significand : Nat) (exponent : Int)
  deriving DecidableEq, Repr, Inhabited

namespace Binary64

def leastExponent : Int := -1074

def greatestExponent : Int := 971

def zero (negative : Bool) : Binary64 := .finite negative 0 leastExponent

def scaled (numerator denominator : Nat) : Int → Nat × Nat
  | .ofNat exponent => (numerator, denominator * Nat.pow 2 exponent)
  | .negSucc exponent => (numerator * Nat.pow 2 (exponent + 1), denominator)

def roundQuotient (numerator denominator : Nat) : Nat :=
  let quotient := numerator / denominator
  let twice := 2 * (numerator % denominator)
  if twice > denominator || (twice == denominator && quotient % 2 == 1) then quotient + 1
  else quotient

/-- The number nearest to a positive quotient; a half goes to the even significand, and what lies
beyond the largest number becomes an infinity. -/
def ofQuotient (negative : Bool) (numerator denominator : Nat) : Binary64 :=
  let guess := max leastExponent (Nat.log2 numerator - Nat.log2 denominator - 53)
  let (top, bottom) := scaled numerator denominator guess
  let exponent := if top / bottom < Nat.pow 2 53 then guess else guess + 1
  let (top, bottom) := scaled numerator denominator exponent
  let significand := roundQuotient top bottom
  let (significand, exponent) :=
    if significand = Nat.pow 2 53 then (Nat.pow 2 52, exponent + 1) else (significand, exponent)
  if exponent > greatestExponent then .infinity negative
  else .finite negative significand exponent

/-- The number nearest to `± digits · 10 ^ exponent`. Exponents so far out that the result is
certain are not computed. -/
def ofDecimal (negative : Bool) (digits : Nat) (exponent : Int) : Binary64 :=
  if digits = 0 then zero negative
  else if exponent > 400 then .infinity negative
  else if exponent < 0 && (Nat.log2 digits : Int) + 3 * exponent < -1100 then zero negative
  else
    match exponent with
    | .ofNat power => ofQuotient negative (digits * Nat.pow 10 power) 1
    | .negSucc power => ofQuotient negative digits (Nat.pow 10 (power + 1))

def ofInt (number : Int) : Binary64 :=
  ofDecimal (number < 0) number.natAbs 0

def isZero : Binary64 → Bool
  | .finite _ 0 _ => true
  | _ => false

def negate : Binary64 → Binary64
  | .nan => .nan
  | .infinity negative => .infinity !negative
  | .finite negative significand exponent => .finite (!negative) significand exponent

def overLeast (negative : Bool) (significand : Nat) (exponent : Int) : Int :=
  let magnitude : Int := significand * Nat.pow 2 (exponent - leastExponent).toNat
  if negative then -magnitude else magnitude

def same : Binary64 → Binary64 → Bool
  | .finite n s e, .finite n' s' e' => overLeast n s e == overLeast n' s' e'
  | .infinity negative, .infinity negative' => negative == negative'
  | _, _ => false

def sameInt : Binary64 → Int → Bool
  | .finite negative significand exponent, number =>
      overLeast negative significand exponent == number * Nat.pow 2 1074
  | _, _ => false

def less : Binary64 → Binary64 → Bool
  | .finite n s e, .finite n' s' e' => overLeast n s e < overLeast n' s' e'
  | .infinity negative, .infinity negative' => negative && !negative'
  | .infinity negative, .finite .. => negative
  | .finite .., .infinity negative => !negative
  | _, _ => false

/-- A multiple of `2 ^ -2148` rounded to the nearest number, with the given sign for zero. -/
private def ofFine (zeroNegative : Bool) (total : Int) : Binary64 :=
  if total = 0 then zero zeroNegative
  else ofQuotient (total < 0) total.natAbs (Nat.pow 2 2148)

def add : Binary64 → Binary64 → Binary64
  | .finite n s e, .finite n' s' e' =>
      ofFine (n && n') ((overLeast n s e + overLeast n' s' e') * Nat.pow 2 1074)
  | .infinity negative, .infinity negative' => if negative = negative' then .infinity negative else .nan
  | .infinity negative, .finite .. => .infinity negative
  | .finite .., .infinity negative => .infinity negative
  | _, _ => .nan

def mul : Binary64 → Binary64 → Binary64
  | .finite n s e, .finite n' s' e' =>
      ofFine (n != n') (overLeast n s e * overLeast n' s' e')
  | .infinity negative, .finite negative' significand _ =>
      if significand = 0 then .nan else .infinity (negative != negative')
  | .finite negative' significand _, .infinity negative =>
      if significand = 0 then .nan else .infinity (negative != negative')
  | .infinity negative, .infinity negative' => .infinity (negative != negative')
  | _, _ => .nan

example : ofDecimal false 1 0 = .finite false (2 ^ 52) (-52) := by decide +kernel
example : ofDecimal false 5 (-324) = .finite false 1 leastExponent := by decide +kernel
example : ofDecimal true 1 309 = .infinity true := by decide +kernel

end Binary64

end ScreenFlow
