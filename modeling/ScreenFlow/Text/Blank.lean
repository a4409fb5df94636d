import ScreenFlow.Text
import ScreenFlow.Text.Ranges

namespace ScreenFlow.Text

/-! White space: the blanks of ASCII, its four information separators, and the spaces and line
ends of other scripts. -/

def blankRanges : List (Nat × Nat) := [
  (0x9, 0xd), (0x1c, 0x20), (0x85, 0x85), (0xa0, 0xa0), (0x1680, 0x1680), (0x2000, 0x200a),
  (0x2028, 0x2029), (0x202f, 0x202f), (0x205f, 0x205f), (0x3000, 0x3000)]

def isBlank (point : Point) : Bool := inRanges blankRanges point.toNat

/-- Put one underscore in place of each maximal run of blanks. `inRun` tells whether the text so
far ends inside such a run. -/
def collapseBlanks (inRun : Bool) : List Point → List Point
  | [] => []
  | point :: rest =>
      if isBlank point then
        if inRun then collapseBlanks true rest else '_' :: collapseBlanks true rest
      else point :: collapseBlanks false rest

def trim (text : List Point) : List Point :=
  ((text.dropWhile isBlank).reverse.dropWhile isBlank).reverse

example : collapseBlanks false (toList "a \tb") = toList "a_b" := by decide
example : collapseBlanks false (toList "  ") = toList "_" := by decide

end ScreenFlow.Text
