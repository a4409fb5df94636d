import ScreenFlow.Text

namespace ScreenFlow.Text.Utf32

/-! Code points of four bytes. -/

def codesOfBytes? (bigEndian : Bool) : List UInt8 → Option (List Nat)
  | [] => some []
  | first :: second :: third :: fourth :: rest =>
      let digits := [first, second, third, fourth].map UInt8.toNat
      let code := (if bigEndian then digits else digits.reverse).foldl
        (fun code digit => code * 0x100 + digit) 0
      (codesOfBytes? bigEndian rest).map (code :: ·)
  | _ => none

def point? (code : Nat) : Option Point :=
  if code < 0x110000 then some (.ofNat code) else none

def decode? (bigEndian : Bool) (bytes : List UInt8) : Option Text := do
  let codes ← codesOfBytes? bigEndian bytes
  return ⟨← codes.mapM point?⟩

example : decode? true [0, 0, 0, 0x61, 0, 1, 0xf6, 0] = some ↑"a😀" := by decide +kernel
example : decode? true [0, 0x11, 0, 0] = none := by decide +kernel

end ScreenFlow.Text.Utf32
