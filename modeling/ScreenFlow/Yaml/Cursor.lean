namespace ScreenFlow.Yaml

/-! A place in a YAML text. Lines end with a line feed, a carriage return, both together, or one of
the three further line ends of Unicode. -/

structure Cursor where
  rest : List Char
  index : Nat
  line : Nat
  column : Nat
  deriving DecidableEq, Repr

def endOfText : Char := '\x00'

def isLineEnd (character : Char) : Bool :=
  character = '\n' || character = '\r' || character = '\x85' || character = '\u2028' ||
    character = '\u2029'

def endsLine (character : Char) : Bool := character = endOfText || isLineEnd character

def endsWord (character : Char) : Bool := character = ' ' || endsLine character

def endsToken (character : Char) : Bool := character = '\t' || endsWord character

namespace Cursor

def start (text : List Char) : Cursor := ⟨text, 0, 0, 0⟩

def peek (cursor : Cursor) (ahead : Nat) : Char := (cursor.rest[ahead]?).getD endOfText

def current (cursor : Cursor) : Char := cursor.peek 0

def next (cursor : Cursor) : Cursor :=
  match cursor.rest with
  | [] => cursor
  | character :: rest =>
      let breaks := isLineEnd character && !(character = '\r' && rest.head? = some '\n')
      { rest
        index := cursor.index + 1
        line := if breaks then cursor.line + 1 else cursor.line
        column :=
          if breaks then 0
          else if character = '\ufeff' then cursor.column
          else cursor.column + 1 }

def forward : Nat → Cursor → Cursor
  | 0, cursor => cursor
  | count + 1, cursor => forward count cursor.next

def ahead (cursor : Cursor) (accepts : Char → Bool) : List Char := cursor.rest.takeWhile accepts

def skip (cursor : Cursor) (accepts : Char → Bool) : Cursor :=
  cursor.forward (cursor.ahead accepts).length

def skipSpaces (cursor : Cursor) : Cursor := cursor.skip (· = ' ')

def skipComment (cursor : Cursor) : Cursor :=
  if cursor.current = '#' then cursor.skip (!endsLine ·) else cursor

def startsWith (cursor : Cursor) (characters : List Char) : Bool :=
  characters.isPrefixOf cursor.rest

def atMarker (cursor : Cursor) (marker : List Char) : Bool :=
  cursor.startsWith marker && endsToken (cursor.peek 3)

def atAnyMarker (cursor : Cursor) : Bool :=
  cursor.atMarker "---".toList || cursor.atMarker "...".toList

/-- The line break that is read here and the cursor after it. Most line ends are read as a line
feed. -/
def lineBreak? (cursor : Cursor) : Option (Char × Cursor) :=
  let character := cursor.current
  if character = '\r' && cursor.peek 1 = '\n' then some ('\n', cursor.forward 2)
  else if character = '\r' || character = '\n' || character = '\x85' then some ('\n', cursor.next)
  else if character = '\u2028' || character = '\u2029' then some (character, cursor.next)
  else none

def skipLineBreak (cursor : Cursor) : Cursor := cursor.lineBreak?.elim cursor Prod.snd

example : ((start "ab\ncd".toList).forward 4).column = 1 := by decide
example : ((start "ab\r\ncd".toList).forward 4).line = 1 := by decide

end Cursor

end ScreenFlow.Yaml
