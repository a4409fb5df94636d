import ScreenFlow.Text.Hex
import ScreenFlow.Text.Printable

namespace ScreenFlow.Text

/-! Texts shown in quotes, the way a value inside a list or a mapping is displayed. -/

def quoteFor (content : List Point) : Point :=
  if content.contains '\'' && !content.contains '"' then '"' else '\''

/-- A code point by its number, after a backslash. -/
def escapeCode (code : Nat) : List Char :=
  if code < 0x100 then '\\' :: 'x' :: hex code 2
  else if code < 0x10000 then '\\' :: 'u' :: hex code 4
  else '\\' :: 'U' :: hex code 8

/-- What stands for a code point between the given quotes: the quote and the backslash are escaped,
and what cannot be printed is shown by its number. -/
def quotePoint (quote point : Point) : List Point :=
  if point = quote || point = '\\' then ['\\', point]
  else if point = '\n' then ['\\', 'n']
  else if point = '\r' then ['\\', 'r']
  else if point = '\t' then ['\\', 't']
  else if isPrintable point then [point]
  else (escapeCode point.toNat).map .char

def quoted (text : Text) : Text :=
  let content := text.toList
  let quote := quoteFor content
  ⟨quote :: (content.flatMap (quotePoint quote) ++ [quote])⟩

def quoteByte (quote : Point) (byte : UInt8) : List Point :=
  if byte < 0x80 then quotePoint quote (.ofNat byte.toNat)
  else (escapeCode byte.toNat).map .char

def quotedBytes (content : List UInt8) : Text :=
  let quote := quoteFor (content.map fun byte => .ofNat byte.toNat)
  ⟨'b' :: quote :: (content.flatMap (quoteByte quote) ++ [quote])⟩

example : quoted "it's" = "\"it's\"" := by decide +kernel
example : quoted "a\nb" = "'a\\nb'" := by decide +kernel
example : quoted ⟨[.surrogate 0]⟩ = "'\\ud800'" := by decide +kernel

end ScreenFlow.Text
