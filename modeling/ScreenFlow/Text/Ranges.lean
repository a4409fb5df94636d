namespace ScreenFlow.Text

/-! Classes of characters given as tables of code points. -/

def inRanges (ranges : List (Nat × Nat)) (code : Nat) : Bool :=
  ranges.any fun range => range.1 ≤ code && code ≤ range.2

example : inRanges [(3, 5), (9, 9)] 4 = true := by decide
example : inRanges [(3, 5), (9, 9)] 6 = false := by decide

end ScreenFlow.Text
