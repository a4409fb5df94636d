import ScreenFlow.Fault
import ScreenFlow.Text.Utf8

namespace ScreenFlow.Text

/-! The bytes of a text as far as it has them: a text with a surrogate has none. -/

def encode (text : Text) : Except Fault (List UInt8) :=
  orFault .unencodable (text.string?.map Utf8.encode)

example : encode "é" = .ok [0xc3, 0xa9] := by decide +kernel
example : encode ⟨['a', .surrogate 0]⟩ = .error .unencodable := by decide +kernel

end ScreenFlow.Text
