import ScreenFlow.Text

namespace ScreenFlow.Text.Utf16

/-! Code units of sixteen bits. A character beyond them is a pair of surrogates, a high one before a
low one; a surrogate that belongs to no pair stays what it is. -/

def isHighSurrogate (unit : Nat) : Bool := 0xd800 ≤ unit && unit < 0xdc00

def isLowSurrogate (unit : Nat) : Bool := 0xdc00 ≤ unit && unit < 0xe000

def joinSurrogates (high low : Nat) : Char :=
  Char.ofNat (0x10000 + (high - 0xd800) * 0x400 + (low - 0xdc00))

def joinUnits : List Nat → List Point
  | [] => []
  | [unit] => [.ofNat unit]
  | high :: low :: rest =>
      if isHighSurrogate high && isLowSurrogate low then
        .char (joinSurrogates high low) :: joinUnits rest
      else .ofNat high :: joinUnits (low :: rest)

def unitsOfBytes? (bigEndian : Bool) : List UInt8 → Option (List Nat)
  | [] => some []
  | [_] => none
  | first :: second :: rest =>
      let (high, low) := if bigEndian then (first, second) else (second, first)
      (unitsOfBytes? bigEndian rest).map ((high.toNat * 0x100 + low.toNat) :: ·)

def decode? (bigEndian : Bool) (bytes : List UInt8) : Option Text :=
  (unitsOfBytes? bigEndian bytes).map fun units => ⟨joinUnits units⟩

example : joinUnits [0x61, 0xd83d, 0xde00, 0xd83d] = [.char 'a', .char '😀', .surrogate 0x3d] := by
  decide +kernel
example : decode? false [0x61, 0, 0xac, 0x20] = some ↑"a€" := by decide +kernel

end ScreenFlow.Text.Utf16
