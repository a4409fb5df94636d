import ScreenFlow.Sequence

namespace ScreenFlow.Text.Punycode

/-! Text in ASCII alone. The ASCII characters of a text come first. After a hyphen follow numbers, one
for each other character in the order of code points: how many steps lie between it and the one
before it, where a step leads to the next place in the text, and from the last place to the first
place of the next code point. Numbers are written to the base 36, least digit first; how many digits
to expect is learned from the numbers before. -/

/-! ## Digits -/

def digit (value : Nat) : Char := Char.ofNat (if value < 26 then 97 + value else 22 + value)

def digitValue? (character : Char) : Option Nat :=
  if character.isLower then some (character.toNat - 97)
  else if character.isUpper then some (character.toNat - 65)
  else if character.isDigit then some (character.toNat - 22)
  else none

def threshold (bias place : Nat) : Nat := min 26 (max 1 (36 * (place + 1) - bias))

/-- How many places a number fills beyond the first ones, times 36, and what is left of it. -/
def divideDown : Nat → Nat → Nat → Nat × Nat
  | fuel + 1, number, places =>
      if number > 455 then divideDown fuel (number / 35) (places + 36) else (number, places)
  | 0, number, places => (number, places)

/-- The bias after a number. The first number tends to be far greater than those that follow. -/
def adapt (number count : Nat) (isFirst : Bool) : Nat :=
  let halved := if isFirst then number / 700 else number / 2
  let (rest, places) := divideDown halved (halved + halved / count) 0
  places + 36 * rest / (rest + 38)

def writeNumber (bias : Nat) : Nat → Nat → Nat → List Char
  | 0, _, _ => []
  | fuel + 1, place, number =>
      let least := threshold bias place
      if number < least then [digit number]
      else
        digit (least + (number - least) % (36 - least)) ::
          writeNumber bias fuel (place + 1) ((number - least) / (36 - least))

def readNumber (bias : Nat) : Nat → Nat → List Char → Option (Nat × List Char)
  | _, _, [] => none
  | place, weight, character :: rest => do
      let value ← digitValue? character
      let least := threshold bias place
      if value < least then return (value * weight, rest)
      else
        let (number, rest) ← readNumber bias (place + 1) (weight * (36 - least)) rest
        return (value * weight + number, rest)

/-! ## Writing -/

def isBasic (character : Char) : Bool := character.toNat < 128

structure Numbers where
  output : List Char
  steps : Nat
  bias : Nat
  placed : Nat
  next : Nat

namespace Numbers

/-- Step past a character, or give it its place if its code point is the next one. -/
def step (basicCount : Nat) (numbers : Numbers) (character : Char) : Numbers :=
  if character.toNat < numbers.next then { numbers with steps := numbers.steps + 1 }
  else if character.toNat = numbers.next then
    { numbers with
      output := numbers.output ++ writeNumber numbers.bias (numbers.steps + 1) 0 numbers.steps
      steps := 0
      bias := adapt numbers.steps (numbers.placed + 1) (numbers.placed == basicCount)
      placed := numbers.placed + 1 }
  else numbers

def place (basicCount : Nat) (text : List Char) (numbers : Numbers) (point : Nat) : Numbers :=
  let skipped := (point - numbers.next) * (numbers.placed + 1)
  let numbers := text.foldl (step basicCount)
    { numbers with steps := numbers.steps + skipped, next := point }
  { numbers with steps := numbers.steps + 1, next := point + 1 }

end Numbers

def encode (text : List Char) : List Char :=
  let basic := text.filter isBasic
  let points := Sequence.sort (· < ·) ((text.filter (!isBasic ·)).map Char.toNat).eraseDups
  let numbers := points.foldl (Numbers.place basic.length text) ⟨[], 0, 72, basic.length, 128⟩
  basic ++ (if basic.isEmpty then [] else ['-']) ++ numbers.output

/-! ## Reading -/

structure Insertion where
  text : List Char
  place : Nat
  point : Nat
  bias : Nat
  isFirst : Bool

namespace Insertion

def insert? (number : Nat) (insertion : Insertion) : Option Insertion := do
  let count := insertion.text.length + 1
  let point := insertion.point + (insertion.place + number) / count
  let place := (insertion.place + number) % count
  guard (point < 0xd800 || (0xdfff < point && point < 0x110000))
  return {
    text := insertion.text.insertIdx place (Char.ofNat point)
    place := place + 1
    point := point
    bias := adapt number count insertion.isFirst
    isFirst := false }

def insertAll : Nat → List Char → Insertion → Option (List Char)
  | 0, numbers, insertion => if numbers.isEmpty then some insertion.text else none
  | fuel + 1, numbers, insertion =>
      if numbers.isEmpty then some insertion.text
      else do
        let (number, rest) ← readNumber insertion.bias 0 1 numbers
        insertAll fuel rest (← insertion.insert? number)

end Insertion

def decode? (text : List Char) : Option (List Char) :=
  let numbers := (text.reverse.takeWhile (· ≠ '-')).reverse
  let basic := text.take (text.length - numbers.length - 1)
  Insertion.insertAll numbers.length numbers ⟨basic, 0, 128, 72, true⟩

example : encode "bücher".toList = "bcher-kva".toList := by decide +kernel
example : encode "日本".toList = "wgv71a".toList := by decide +kernel
example : decode? "bcher-KVA".toList = some "bücher".toList := by decide +kernel
example : decode? "wgv71a".toList = some "日本".toList := by decide +kernel
example : decode? "bcher-kv".toList = none := by decide +kernel

end ScreenFlow.Text.Punycode
