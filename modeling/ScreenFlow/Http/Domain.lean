import ScreenFlow.Http.Domain.Composition
import ScreenFlow.Http.Domain.Context
import ScreenFlow.Http.Domain.Direction
import ScreenFlow.Http.Domain.Letters
import ScreenFlow.Text.Punycode

namespace ScreenFlow.Http.Domain

/-! Names of hosts beyond ASCII. Such a name is written in ASCII label by label, and all its labels
have to follow the rules for names in any script, also those that are in ASCII already. -/

def asciiMark : List Char := "xn--".toList

def maxLabelLength : Nat := 63

def maxLength : Nat := 253

def isDot (character : Char) : Bool :=
  character = '.' || character = '。' || character = '．' || character = '｡'

/-- Whether each character of a label may stand where it stands, given what comes before in
reverse. -/
def allFit (reversedBefore : List Char) : List Char → Bool
  | [] => true
  | character :: after =>
      (isLetter character || fitsBetween reversedBefore character after) &&
        allFit (character :: reversedBefore) after

/-- Whether hyphens stand at neither end of a label, and not both as its third and fourth
character. -/
def hyphensFit (label : List Char) : Bool :=
  label.head? != some '-' && label.getLast? != some '-' && (label.drop 2).take 2 != ['-', '-']

def isLabel (label : List Char) : Bool :=
  !label.isEmpty && label.length ≤ maxLength + 1 && hyphensFit label &&
    !label.head?.any isMark && allFit [] label && isComposed label &&
    Direction.agree (label.map Direction.of)

def meant? (label : List Char) : Option (List Char) :=
  if asciiMark.isPrefixOf label then
    let content := label.drop asciiMark.length
    if content.isEmpty || content.getLast? = some '-' then none
    else Text.Punycode.decode? content
  else some label

def labelToAscii? (label : List Char) : Option (List Char) := do
  let isAscii := label.all Text.Punycode.isBasic
  guard (isLabel (← if isAscii then meant? label else some label))
  let written := if isAscii then label else asciiMark ++ Text.Punycode.encode label
  guard (written.length ≤ maxLabelLength)
  return written

def toAscii? (name : List Char) : Option (List Char) := do
  let labels := name.splitOnP isDot
  let endsWithDot := labels.getLast? == some []
  guard (name.length ≤ maxLength + 1)
  let written ← (if endsWithDot then labels.dropLast else labels).mapM labelToAscii?
  guard !written.isEmpty
  let text := ['.'].intercalate (written ++ if endsWithDot then [[]] else [])
  guard (text.length ≤ if endsWithDot then maxLength + 1 else maxLength)
  return text

example : toAscii? "日本.test".toList = some "xn--wgv71a.test".toList := by decide +kernel
example : toAscii? "a。é.".toList = some "a.xn--9ca.".toList := by decide +kernel
example : toAscii? "☃.net".toList = none := by decide +kernel

end ScreenFlow.Http.Domain
