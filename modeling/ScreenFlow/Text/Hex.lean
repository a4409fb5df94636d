namespace ScreenFlow.Text

/-! Hexadecimal digits. -/

def hexDigit (value : Nat) : Char :=
  if value < 10 then Char.ofNat (48 + value) else Char.ofNat (87 + value)

def hex (number : Nat) : Nat → List Char
  | 0 => []
  | width + 1 => hex (number / 16) width ++ [hexDigit (number % 16)]

def hexValue? (character : Char) : Option Nat :=
  if '0' ≤ character ∧ character ≤ '9' then some (character.toNat - 48)
  else if 'a' ≤ character ∧ character ≤ 'f' then some (character.toNat - 87)
  else if 'A' ≤ character ∧ character ≤ 'F' then some (character.toNat - 55)
  else none

example : hex 0x1f6 4 = "01f6".toList := by decide
example : hexValue? 'F' = some 15 := by decide

end ScreenFlow.Text
