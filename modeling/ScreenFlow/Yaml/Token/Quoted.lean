import ScreenFlow.Text.Hex
import ScreenFlow.Yaml.Cursor
import ScreenFlow.Yaml.Token

namespace ScreenFlow.Yaml

/-! Quoted scalars. Between single quotes a quote is written twice; between double quotes a
backslash starts an escape. A single line break is read as a space, and of several the first is
left out. -/

def escapedChar? : Char → Option Char
  | '0' => some '\x00'
  | 'a' => some '\x07'
  | 'b' => some '\x08'
  | 't' => some '\t'
  | '\t' => some '\t'
  | 'n' => some '\n'
  | 'v' => some '\x0b'
  | 'f' => some '\x0c'
  | 'r' => some '\r'
  | 'e' => some '\x1b'
  | ' ' => some ' '
  | '"' => some '"'
  | '\\' => some '\\'
  | '/' => some '/'
  | 'N' => some '\x85'
  | '_' => some '\u00a0'
  | 'L' => some '\u2028'
  | 'P' => some '\u2029'
  | _ => none

def codeWidth? : Char → Option Nat
  | 'x' => some 2
  | 'u' => some 4
  | 'U' => some 8
  | _ => none

def natOfHex? (digits : List Char) : Option Nat :=
  digits.foldlM (fun number digit => (Text.hexValue? digit).map (number * 16 + ·)) 0

/-- The code point with a number, which may be that of a surrogate. A number beyond the last code
point is a fault of its own. -/
def pointOfCode (code : Nat) : Except Fault Point :=
  if code < 0x110000 then .ok (.ofNat code)
  else if code < 0x80000000 then .error .badValue
  else .error .overflow

namespace Cursor

/-- The line breaks after the first one of a quoted scalar. A document marker cannot stand
inside. -/
def quotedBreaks : Nat → Cursor → Except Fault (List Char × Cursor)
  | 0, _ => refuse
  | fuel + 1, cursor => do
      require !cursor.atAnyMarker
      let cursor := cursor.skip fun character => character = ' ' || character = '\t'
      match cursor.lineBreak? with
      | none => return ([], cursor)
      | some (character, cursor) =>
          let (breaks, cursor) ← quotedBreaks fuel cursor
          return (character :: breaks, cursor)

/-- What a run of line breaks is read as: one line feed becomes a space, and before further breaks
it is left out. -/
def folded (first : Char) (further : List Char) : List Char :=
  if first ≠ '\n' then first :: further
  else if further.isEmpty then [' ']
  else further

def quotedBlanks (cursor : Cursor) : Except Fault (List Char × Cursor) := do
  let isBlank (character : Char) : Bool := character = ' ' || character = '\t'
  let blanks := cursor.ahead isBlank
  let cursor := cursor.skip isBlank
  require (cursor.current != endOfText)
  match cursor.lineBreak? with
  | none => return (blanks, cursor)
  | some (first, cursor) =>
      let (further, cursor) ← quotedBreaks (cursor.rest.length + 1) cursor
      return (folded first further, cursor)

/-- What an escape stands for, from the character after its backslash on. An escaped line break
stands for nothing. -/
def quotedEscape (cursor : Cursor) : Except Fault (List Point × Cursor) :=
  match escapedChar? cursor.current, codeWidth? cursor.current, cursor.lineBreak? with
  | some meant, _, _ => return ([meant], cursor.next)
  | none, some width, _ => do
      let digits := cursor.next.rest.take width
      require (digits.length = width)
      match natOfHex? digits with
      | none => refuse
      | some code => return ([← pointOfCode code], cursor.next.forward width)
  | none, none, some (_, cursor) => do
      let (breaks, cursor) ← quotedBreaks (cursor.rest.length + 1) cursor
      return (breaks.map .char, cursor)
  | none, none, none => refuse

def quotedContent (quote : Char) : Nat → Cursor → Except Fault (List Point × Cursor)
  | 0, _ => refuse
  | fuel + 1, cursor => do
      let double := quote = '"'
      let character := cursor.current
      if character = quote then
        if !double && cursor.peek 1 = '\'' then
          let (rest, cursor) ← quotedContent quote fuel (cursor.forward 2)
          return ('\'' :: rest, cursor)
        else return ([], cursor.next)
      else
        let (piece, cursor) ←
          if endsToken character then do
            let (blanks, cursor) ← cursor.quotedBlanks
            pure (blanks.map Point.char, cursor)
          else if double && character = '\\' then cursor.next.quotedEscape
          else pure ([Point.char character], cursor.next)
        let (rest, cursor) ← quotedContent quote fuel cursor
        return (piece ++ rest, cursor)

def quoted (cursor : Cursor) : Except Fault (Text × Cursor) := do
  let (content, rest) ← quotedContent cursor.current (cursor.rest.length + 1) cursor.next
  return (⟨content⟩, rest)

example : ((start "'it''s' ".toList).quoted.map Prod.fst) = .ok "it's" := by decide +kernel
example : ((start "\"a\\n\n b\"".toList).quoted.map Prod.fst) = .ok "a\n b" := by
  decide +kernel
example : ((start "\"\\ud83d\\ude00\"".toList).quoted.map Prod.fst) =
    .ok ⟨[.surrogate 0x3d, .surrogate 0x600]⟩ := by decide +kernel

end Cursor

end ScreenFlow.Yaml
