import ScreenFlow.Text

namespace ScreenFlow.Text.ControlSequence

/-! Control sequences, with which a text sets the colours of a terminal and moves its cursor. A
sequence begins with an escape character and a bracket; parameters and intermediate characters
follow, and a final character ends it. -/

def isParameter (point : Point) : Bool := point.any fun character =>
  '0' ≤ character && character ≤ '?'

def isIntermediate (point : Point) : Bool := point.any fun character =>
  ' ' ≤ character && character ≤ '/'

def isFinal (point : Point) : Bool := point.any fun character =>
  '@' ≤ character && character ≤ '~'

/-- The number of characters after the bracket of a sequence, if the text holds a whole one. -/
def length? (text : List Point) : Option Nat :=
  let parameters := text.takeWhile isParameter
  let intermediates := (text.dropWhile isParameter).takeWhile isIntermediate
  let size := parameters.length + intermediates.length
  if (text[size]?).any isFinal then some (size + 1) else none

/-- A text without its control sequences, where the first `skipped` characters belong to a sequence
that has begun before. -/
def stripFrom : Nat → List Point → List Point
  | _, [] => []
  | skipped + 1, _ :: rest => stripFrom skipped rest
  | 0, point :: rest =>
      match point, rest with
      | .char '\x1b', .char '[' :: body =>
          match length? body with
          | some size => stripFrom (size + 1) rest
          | none => point :: stripFrom 0 rest
      | _, _ => point :: stripFrom 0 rest

def strip (text : Text) : Text := ⟨stripFrom 0 text.toList⟩

example : strip "\x1b[1;31mred\x1b[0m \x1b]0;t \x1b[" = "red \x1b]0;t \x1b[" := by decide +kernel
example : strip "\x1b[1;2 e\x1b[?25l." = "." := by decide +kernel

end ScreenFlow.Text.ControlSequence
