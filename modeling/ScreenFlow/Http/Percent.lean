import ScreenFlow.Text.Hex
import ScreenFlow.Text.Utf8

namespace ScreenFlow.Percent

/-! Percent escapes. A character that may not stand for itself is written as the escapes of its
UTF-8 bytes. -/

def escapeByte (byte : UInt8) : List Char := '%' :: (Text.hex byte.toNat 2).map Char.toUpper

def escape (character : Char) : List Char := (Text.Utf8.encodeChar character).flatMap escapeByte

def isUnreserved (character : Char) : Bool :=
  character.isAlphanum || character = '-' || character = '.' || character = '_' || character = '~'

/-- A text with escapes for the characters that are not safe. An escape that is already there stays
as it is. -/
def quote (isSafe : Char → Bool) : List Char → List Char
  | '%' :: high :: low :: rest =>
      if (Text.hexValue? high).isSome && (Text.hexValue? low).isSome then
        '%' :: high :: low :: quote isSafe rest
      else quoteChar '%' ++ quote isSafe (high :: low :: rest)
  | character :: rest => quoteChar character ++ quote isSafe rest
  | [] => []
where
  quoteChar (character : Char) : List Char :=
    if isUnreserved character || isSafe character then [character] else escape character

def unquoteBytes : List Char → List UInt8
  | [] => []
  | '%' :: high :: low :: rest =>
      match Text.hexValue? high, Text.hexValue? low with
      | some high, some low => UInt8.ofNat (high * 16 + low) :: unquoteBytes rest
      | _, _ => Text.Utf8.encodeChar '%' ++ unquoteBytes (high :: low :: rest)
  | character :: rest => Text.Utf8.encodeChar character ++ unquoteBytes rest

def unquote (text : List Char) : String := Text.Utf8.decodeLossy (unquoteBytes text)

def visibleExcept (others : String) (character : Char) : Bool :=
  '!' ≤ character && character ≤ '~' && !others.toList.contains character

/-! ## Forms -/

def formChar (character : Char) : List Char :=
  if isUnreserved character then [character]
  else if character = ' ' then ['+']
  else escape character

def form (entries : List (String × String)) : List Char :=
  ['&'].intercalate (entries.map fun (name, value) =>
    name.toList.flatMap formChar ++ '=' :: value.toList.flatMap formChar)

example : quote (fun _ => false) "a b%2f%é".toList = "a%20b%2f%25%C3%A9".toList := by
  decide +kernel
example : unquote "us%20er%C3%A9%4".toList = "us eré%4" := by decide +kernel
example : form [("n", "a b+"), ("m", "é~")] = "n=a+b%2B&m=%C3%A9~".toList := by decide +kernel

end ScreenFlow.Percent
