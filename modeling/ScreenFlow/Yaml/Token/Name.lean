import ScreenFlow.Number.Numeral
import ScreenFlow.Number.Whole
import ScreenFlow.Text.Hex
import ScreenFlow.Yaml.Cursor
import ScreenFlow.Yaml.Token

namespace ScreenFlow.Yaml

/-! Names in YAML text: anchors and aliases, tags, and directives. -/

def isNameChar (character : Char) : Bool :=
  ('0' ≤ character && character ≤ '9') || ('A' ≤ character && character ≤ 'Z') ||
    ('a' ≤ character && character ≤ 'z') || character = '-' || character = '_'

def isTagChar (character : Char) : Bool :=
  isNameChar character || ";/?:@&=+$,.!~*'()[]%".toList.contains character

namespace Cursor

def name (cursor : Cursor) : Except Fault (String × Cursor) := do
  let characters := cursor.ahead isNameChar
  require !characters.isEmpty
  return (String.ofList characters, cursor.forward characters.length)

def anchorName (cursor : Cursor) : Except Fault (String × Cursor) := do
  let (name, cursor) ← cursor.next.name
  require (endsToken cursor.current || "?:,]\x7d%@\x60".toList.contains cursor.current)
  return (name, cursor)

/-! ## Tags -/

def escapedBytes : List Char → Except Fault (List UInt8)
  | '%' :: first :: second :: rest =>
      match Text.hexValue? first, Text.hexValue? second with
      | some first, some second => do
          return UInt8.ofNat (first * 16 + second) :: (← escapedBytes rest)
      | _, _ => refuse
  | '%' :: _ => refuse
  | _ => return []

def unescapeTag : Nat → List Char → Except Fault (List Char)
  | 0, _ => refuse
  | _ + 1, [] => return []
  | fuel + 1, '%' :: rest => do
      let bytes ← escapedBytes ('%' :: rest)
      match String.fromUTF8? (ByteArray.mk bytes.toArray) with
      | some text =>
          return text.toList ++ (← unescapeTag fuel (('%' :: rest).drop (3 * bytes.length)))
      | none => refuse
  | fuel + 1, character :: rest => do
      return character :: (← unescapeTag fuel rest)

def tagSuffix (cursor : Cursor) : Except Fault (String × Cursor) := do
  let characters := cursor.ahead isTagChar
  require !characters.isEmpty
  let content ← unescapeTag (characters.length + 1) characters
  return (String.ofList content, cursor.forward characters.length)

def tagHandle (cursor : Cursor) : Except Fault (String × Cursor) := do
  require (cursor.current = '!')
  let name := cursor.next.ahead isNameChar
  if cursor.peek 1 = ' ' then return ("!", cursor.next)
  else
    require (cursor.peek (name.length + 1) = '!')
    return (String.ofList ('!' :: (name ++ ['!'])), cursor.forward (name.length + 2))

def hasHandle (cursor : Cursor) : Bool :=
  (cursor.next.skip fun character => !endsWord character && character != '!').current = '!'

def tag (cursor : Cursor) : Except Fault (WrittenTag × Cursor) := do
  let (tag, cursor) ←
    if cursor.peek 1 = '<' then do
      let (suffix, cursor) ← (cursor.forward 2).tagSuffix
      require (cursor.current = '>')
      pure (WrittenTag.mk none suffix, cursor.next)
    else if endsToken (cursor.peek 1) then
      pure (WrittenTag.mk none "!", cursor.next)
    else do
      let (handle, cursor) ← if cursor.hasHandle then cursor.tagHandle else pure ("!", cursor.next)
      let (suffix, cursor) ← cursor.tagSuffix
      pure (WrittenTag.mk (some handle) suffix, cursor)
  require (endsWord cursor.current)
  return (tag, cursor)

/-! ## Directives -/

def number (cursor : Cursor) : Except Fault (Nat × Cursor) := do
  let digits := cursor.ahead Char.isDigit
  require !digits.isEmpty
  if digits.length > Whole.maxDigits then throw .badValue
  return (Numeral.ofDigits digits, cursor.forward digits.length)

def directiveContent (name : String) (cursor : Cursor) : Except Fault (Directive × Cursor) :=
  if name = "YAML" then do
    let (major, cursor) ← cursor.skipSpaces.number
    require (cursor.current = '.')
    let (minor, cursor) ← cursor.next.number
    require (endsWord cursor.current)
    return (.version major minor, cursor)
  else if name = "TAG" then do
    let (handle, cursor) ← cursor.skipSpaces.tagHandle
    require (cursor.current = ' ')
    let (expansion, cursor) ← cursor.skipSpaces.tagSuffix
    require (endsWord cursor.current)
    return (.tag handle expansion, cursor)
  else return (.other, cursor.skip (!endsLine ·))

def lineRest (cursor : Cursor) : Except Fault Cursor := do
  let cursor := cursor.skipSpaces.skipComment
  require (endsLine cursor.current)
  return cursor.skipLineBreak

def directive (cursor : Cursor) : Except Fault (Directive × Cursor) := do
  let (name, cursor) ← cursor.next.name
  require (endsWord cursor.current)
  let (directive, cursor) ← directiveContent name cursor
  return (directive, ← cursor.lineRest)

end Cursor

end ScreenFlow.Yaml
