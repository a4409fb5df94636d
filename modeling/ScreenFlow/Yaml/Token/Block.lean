import ScreenFlow.Yaml.Cursor
import ScreenFlow.Yaml.Token

namespace ScreenFlow.Yaml

/-! Block scalars, which are held together by their indentation. A literal scalar keeps its line
breaks; a folded one joins lines that start with no blank. -/

/-- What happens to the line breaks at the end of a block scalar. -/
inductive Chomping where
  | clip
  | keep
  | strip
  deriving DecidableEq, Repr

namespace Cursor

def chomping? (cursor : Cursor) : Option Chomping :=
  if cursor.current = '+' then some .keep
  else if cursor.current = '-' then some .strip
  else none

def increment? (cursor : Cursor) : Except Fault (Option Nat) := do
  if cursor.current.isDigit then
    require (cursor.current != '0')
    return some (cursor.current.toNat - 48)
  else return none

def blockHeader (cursor : Cursor) : Except Fault (Chomping × Option Nat × Cursor) := do
  let (chomping, increment, cursor) ←
    match cursor.chomping? with
    | some chomping => do
        let cursor := cursor.next
        match ← cursor.increment? with
        | some increment => pure (chomping, some increment, cursor.next)
        | none => pure (chomping, none, cursor)
    | none => do
        match ← cursor.increment? with
        | some increment =>
            let cursor := cursor.next
            match cursor.chomping? with
            | some chomping => pure (chomping, some increment, cursor.next)
            | none => pure (.clip, some increment, cursor)
        | none => pure (.clip, none, cursor)
  require (endsWord cursor.current)
  return (chomping, increment, cursor)

/-- Blank lines at the start of a block scalar whose indentation is not known yet: their breaks and
the greatest number of spaces. -/
def leadingLines : Nat → Nat → Cursor → List Char × Nat × Cursor
  | 0, widest, cursor => ([], widest, cursor)
  | fuel + 1, widest, cursor =>
      let cursor := cursor.skipSpaces
      let widest := max widest cursor.column
      match cursor.lineBreak? with
      | none => ([], widest, cursor)
      | some (character, cursor) =>
          let (breaks, widest, cursor) := leadingLines fuel widest cursor
          (character :: breaks, widest, cursor)

def skipIndent (indent : Nat) (cursor : Cursor) : Cursor :=
  cursor.forward (min (cursor.ahead (· = ' ')).length (indent - cursor.column))

def blankLines (indent : Nat) : Nat → Cursor → List Char × Cursor
  | 0, cursor => ([], cursor)
  | fuel + 1, cursor =>
      let cursor := cursor.skipIndent indent
      match cursor.lineBreak? with
      | none => ([], cursor)
      | some (character, cursor) =>
          let (breaks, cursor) := blankLines indent fuel cursor
          (character :: breaks, cursor)

def atBlank (cursor : Cursor) : Bool := cursor.current = ' ' || cursor.current = '\t'

def joint (folds : Bool) (lineBreak : List Char) (plainBefore plainAfter : Bool)
    (breaks : List Char) : List Char :=
  if folds && lineBreak = ['\n'] && plainBefore && plainAfter then
    if breaks.isEmpty then [' '] else []
  else lineBreak

def chomped (chomping : Chomping) (lineBreak breaks : List Char) : List Char :=
  match chomping with
  | .clip => lineBreak
  | .keep => lineBreak ++ breaks
  | .strip => []

def atBlockLine (indent : Nat) (cursor : Cursor) : Bool :=
  cursor.column = indent && cursor.current != endOfText

def blockLines (folds : Bool) (chomping : Chomping) (indent : Nat) :
    Nat → List Char → List Char → Cursor → List Char × Cursor
  | 0, lineBreak, breaks, cursor => (chomped chomping lineBreak breaks, cursor)
  | fuel + 1, lineBreak, breaks, cursor =>
      if cursor.atBlockLine indent then
        let line := cursor.ahead (!endsLine ·)
        let lineEnd := cursor.skip (!endsLine ·)
        let lineBreak := lineEnd.lineBreak?.elim [] fun found => [found.1]
        let (further, next) :=
          blankLines indent (lineEnd.rest.length + 1) lineEnd.skipLineBreak
        let between :=
          if next.atBlockLine indent then
            joint folds lineBreak (!cursor.atBlank) (!next.atBlank) further
          else []
        let (rest, final) := blockLines folds chomping indent fuel lineBreak further next
        (breaks ++ line ++ between ++ rest, final)
      else (chomped chomping lineBreak breaks, cursor)

def block (folds : Bool) (parent : Int) (cursor : Cursor) : Except Fault (String × Cursor) := do
  let (chomping, increment, cursor) ← cursor.next.blockHeader
  let cursor := cursor.skipSpaces.skipComment
  require (endsLine cursor.current)
  let cursor := cursor.skipLineBreak
  let least := max 1 (parent + 1).toNat
  let (breaks, indent, cursor) :=
    match increment with
    | none =>
        let (breaks, widest, cursor) := leadingLines (cursor.rest.length + 1) 0 cursor
        (breaks, max least widest, cursor)
    | some increment =>
        let indent := least + increment - 1
        let (breaks, cursor) := blankLines indent (cursor.rest.length + 1) cursor
        (breaks, indent, cursor)
  let (content, cursor) :=
    blockLines folds chomping indent (cursor.rest.length + 1) [] breaks cursor
  return (String.ofList content, cursor)

example : ((start "|\n a\n  b\n".toList).block false (-1)).map Prod.fst = .ok "a\n b\n" := by
  decide +kernel
example : ((start ">-\n a\n b\n".toList).block true (-1)).map Prod.fst = .ok "a b" := by
  decide +kernel

end Cursor

end ScreenFlow.Yaml
