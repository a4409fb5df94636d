import ScreenFlow.Fault
import ScreenFlow.Text.Utf32
import ScreenFlow.Text.Utf8

namespace ScreenFlow.Json

/-! JSON text as bytes. Its encoding follows from a mark of the byte order at its beginning or, as a
JSON text begins with an ASCII character, from the place of the first zero bytes. -/

inductive Encoding where
  | utf8
  | utf16 (bigEndian : Bool)
  | utf32 (bigEndian : Bool)
  deriving DecidableEq, Repr

namespace Encoding

def ofStart : List UInt8 → Encoding
  | 0 :: 0 :: _ :: _ :: _ => .utf32 true
  | 0 :: _ :: _ :: _ :: _ => .utf16 true
  | _ :: 0 :: 0 :: 0 :: _ => .utf32 false
  | _ :: 0 :: _ :: _ :: _ => .utf16 false
  | [0, _] => .utf16 true
  | [_, 0] => .utf16 false
  | _ => .utf8

def detect : List UInt8 → Encoding × List UInt8
  | 0 :: 0 :: 0xfe :: 0xff :: rest => (.utf32 true, rest)
  | 0xff :: 0xfe :: 0 :: 0 :: rest => (.utf32 false, rest)
  | 0xfe :: 0xff :: rest => (.utf16 true, rest)
  | 0xff :: 0xfe :: rest => (.utf16 false, rest)
  | 0xef :: 0xbb :: 0xbf :: rest => (.utf8, rest)
  | bytes => (ofStart bytes, bytes)

def decode? : Encoding → List UInt8 → Option Text
  | .utf8, bytes => Text.Utf8.decodeLenient? bytes
  | .utf16 bigEndian, bytes => Text.Utf16.decode? bigEndian bytes
  | .utf32 bigEndian, bytes => Text.Utf32.decode? bigEndian bytes

end Encoding

def ReadError.fault (error : ReadError) : Fault :=
  match error.complaint with
  | .longNumber => .badValue
  | .nesting => .tooDeep
  | _ => .malformedJson

def readBytes (bytes : List UInt8) : Except Fault Value := do
  let (encoding, rest) := Encoding.detect bytes
  let text ← orFault .undecodable (encoding.decode? rest)
  (read text).mapError ReadError.fault

example : readBytes [0xff, 0xfe, 0x5b, 0, 0x5d, 0] = .ok (.list []) := by decide +kernel
example : readBytes [0x31] = .ok (.int 1) := by decide +kernel
example : readBytes [0xff] = .error .undecodable := by decide +kernel

end ScreenFlow.Json
