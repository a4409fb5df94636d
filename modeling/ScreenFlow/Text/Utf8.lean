import ScreenFlow.Text
import ScreenFlow.Text.Hex

namespace ScreenFlow.Text.Utf8

/-! UTF-8. A byte sequence is cut into characters and, where it is no text, into runs of bytes that
begin like a character and cannot be continued. -/

/-! ## Writing -/

def follower (bits : Nat) : UInt8 := UInt8.ofNat (0x80 + bits % 0x40)

def encodeChar (character : Char) : List UInt8 :=
  let point := character.toNat
  if point < 0x80 then [UInt8.ofNat point]
  else if point < 0x800 then [UInt8.ofNat (0xc0 + point / 0x40), follower point]
  else if point < 0x10000 then
    [UInt8.ofNat (0xe0 + point / 0x1000), follower (point / 0x40), follower point]
  else
    [UInt8.ofNat (0xf0 + point / 0x40000), follower (point / 0x1000), follower (point / 0x40),
      follower point]

def encodeChars (characters : List Char) : List UInt8 := characters.flatMap encodeChar

def encode (text : String) : List UInt8 := encodeChars text.toList

/-! ## Reading -/

inductive Piece where
  | point (point : Point)
  | stray (bytes : List UInt8)
  deriving DecidableEq, Repr

/-- A character of which some bytes are still missing: those that were read, the value of its bits
so far, and the ranges of the missing ones. -/
structure Unfinished where
  bytes : List UInt8
  bits : Nat
  next : Nat × Nat
  later : List (Nat × Nat)
  deriving DecidableEq, Repr

/-- What a first byte begins: a whole character, an unfinished one, or nothing. Surrogates are no
characters, unless they are let through. -/
def start (surrogates : Bool) (first : UInt8) : Piece ⊕ Unfinished :=
  let byte := first.toNat
  let any := (0x80, 0xbf)
  if byte < 0x80 then .inl (.point (.ofNat byte))
  else if 0xc2 ≤ byte && byte < 0xe0 then .inr ⟨[first], byte - 0xc0, any, []⟩
  else if byte = 0xe0 then .inr ⟨[first], 0, (0xa0, 0xbf), [any]⟩
  else if byte = 0xed && !surrogates then .inr ⟨[first], 0xd, (0x80, 0x9f), [any]⟩
  else if 0xe1 ≤ byte && byte < 0xf0 then .inr ⟨[first], byte - 0xe0, any, [any]⟩
  else if byte = 0xf0 then .inr ⟨[first], 0, (0x90, 0xbf), [any, any]⟩
  else if 0xf1 ≤ byte && byte < 0xf4 then .inr ⟨[first], byte - 0xf0, any, [any, any]⟩
  else if byte = 0xf4 then .inr ⟨[first], 4, (0x80, 0x8f), [any, any]⟩
  else .inl (.stray [first])

def Unfinished.add (unfinished : Unfinished) (byte : UInt8) : Piece ⊕ Unfinished :=
  let bits := unfinished.bits * 0x40 + byte.toNat % 0x40
  match unfinished.later with
  | [] => .inl (.point (.ofNat bits))
  | next :: later => .inr ⟨unfinished.bytes ++ [byte], bits, next, later⟩

def Unfinished.accepts (unfinished : Unfinished) (byte : UInt8) : Bool :=
  unfinished.next.1 ≤ byte.toNat && byte.toNat ≤ unfinished.next.2

def piecesFrom (surrogates : Bool) : Option Unfinished → List UInt8 → List Piece
  | none, [] => []
  | some unfinished, [] => [.stray unfinished.bytes]
  | none, byte :: rest =>
      match start surrogates byte with
      | .inl piece => piece :: piecesFrom surrogates none rest
      | .inr unfinished => piecesFrom surrogates (some unfinished) rest
  | some unfinished, byte :: rest =>
      if unfinished.accepts byte then
        match unfinished.add byte with
        | .inl piece => piece :: piecesFrom surrogates none rest
        | .inr unfinished => piecesFrom surrogates (some unfinished) rest
      else
        .stray unfinished.bytes ::
          match start surrogates byte with
          | .inl piece => piece :: piecesFrom surrogates none rest
          | .inr unfinished => piecesFrom surrogates (some unfinished) rest

def pieces (bytes : List UInt8) : List Piece := piecesFrom false none bytes

def whole? : List Piece → Option Text
  | [] => some ""
  | .point point :: rest => (whole? rest).map fun text => ⟨point :: text.toList⟩
  | .stray _ :: _ => none

def decode? (bytes : List UInt8) : Option String := (whole? (pieces bytes)).bind string?

def decodeLenient? (bytes : List UInt8) : Option Text := whole? (piecesFrom true none bytes)

def decodeWith (replace : List UInt8 → List Char) (bytes : List UInt8) : String :=
  String.ofList ((pieces bytes).flatMap fun piece =>
    match piece with
    | .point point => point.char?.toList
    | .stray bytes => replace bytes)

/-- The text of a byte sequence with one replacement character for each run that is no text. -/
def decodeLossy (bytes : List UInt8) : String := decodeWith (fun _ => ['\ufffd']) bytes

/-- The text of a byte sequence with an escape for each byte that belongs to no character. -/
def decodeEscaped (bytes : List UInt8) : String :=
  decodeWith (fun bytes => bytes.flatMap fun byte => '\\' :: 'x' :: hex byte.toNat 2) bytes

example : encode "aé€😀" = [97, 195, 169, 226, 130, 172, 240, 159, 152, 128] := by decide +kernel
example : decode? (encode "aé€😀") = some "aé€😀" := by decide +kernel
example : decode? [0xc0, 0xaf] = none := by decide +kernel
example : decodeLenient? [0xed, 0xa0, 0x80] = some ⟨[.surrogate 0]⟩ := by decide +kernel
example : decodeLossy [0xe2, 0x82, 0x61, 0xff] = "\ufffda\ufffd" := by decide +kernel
example : decodeEscaped [0xff, 0x7b] = "\\xff\x7b" := by decide +kernel

end ScreenFlow.Text.Utf8
