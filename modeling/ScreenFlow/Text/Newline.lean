namespace ScreenFlow.Text

/-! Line ends. A line may end with a line feed, a carriage return, or both in this order. -/

def unifyNewlines : List Char → List Char
  | [] => []
  | '\r' :: '\n' :: rest => '\n' :: unifyNewlines rest
  | '\r' :: rest => '\n' :: unifyNewlines rest
  | character :: rest => character :: unifyNewlines rest

example : unifyNewlines "a\r\nb\rc\n\r".toList = "a\nb\nc\n\n".toList := by decide +kernel

end ScreenFlow.Text
