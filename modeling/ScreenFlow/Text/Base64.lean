namespace ScreenFlow.Text.Base64

/-! Bytes as text in groups of six bits. The reader skips characters outside the alphabet and stops
at the first complete padding. -/

def alphabet : List Char :=
  "ABCDEFGHIJKLMNOPQRSTUVWXYZabcdefghijklmnopqrstuvwxyz0123456789+/".toList

def digit? (character : Char) : Option Nat :=
  let index := alphabet.idxOf character
  if index < 64 then some index else none

def digit (value : Nat) : Char := alphabet[value]?.getD '='

/-- Read digits. `position` is the place within a group of four, `left` holds the bits that are not
written yet, and `pads` counts the padding so far. -/
def decodeFrom (position left pads : Nat) : List Char → Option (List UInt8)
  | [] => if position = 0 then some [] else none
  | character :: rest =>
      if character = '=' then
        if position ≥ 2 ∧ position + pads + 1 ≥ 4 then some []
        else decodeFrom position left (if position ≥ 2 then pads + 1 else pads) rest
      else
        match digit? character with
        | none => decodeFrom position left pads rest
        | some value =>
            match position with
            | 0 => decodeFrom 1 value 0 rest
            | 1 => (decodeFrom 2 (value % 16) 0 rest).map
                (UInt8.ofNat (left * 4 + value / 16) :: ·)
            | 2 => (decodeFrom 3 (value % 4) 0 rest).map
                (UInt8.ofNat (left * 16 + value / 4) :: ·)
            | _ => (decodeFrom 0 0 0 rest).map (UInt8.ofNat (left * 64 + value) :: ·)

def decode? (text : List Char) : Option (List UInt8) := decodeFrom 0 0 0 text

def encode : List UInt8 → List Char
  | [] => []
  | [first] =>
      let bits := first.toNat * 16
      [digit (bits / 64), digit (bits % 64), '=', '=']
  | [first, second] =>
      let bits := (first.toNat * 256 + second.toNat) * 4
      [digit (bits / 4096), digit (bits / 64 % 64), digit (bits % 64), '=']
  | first :: second :: third :: rest =>
      let bits := (first.toNat * 256 + second.toNat) * 256 + third.toNat
      digit (bits / 262144) :: digit (bits / 4096 % 64) :: digit (bits / 64 % 64) ::
        digit (bits % 64) :: encode rest

example : encode "Man!".toUTF8.toList = "TWFuIQ==".toList := by decide +kernel
example : decode? "TWFu\nIQ==".toList = some "Man!".toUTF8.toList := by decide +kernel

end ScreenFlow.Text.Base64
