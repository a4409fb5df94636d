import ScreenFlow.Yaml.Token.Quoted

namespace ScreenFlow.Yaml

/-! Plain scalars, which stand without quotes. A colon before a blank, a comment, or inside brackets
a comma, a question mark or a bracket ends them; they may go on over several lines. -/

def isFlowIndicator (character : Char) : Bool := ",[]\x7b\x7d".toList.contains character

namespace Cursor

def plainWord (inFlow : Bool) : List Char → List Char
  | [] => []
  | character :: rest =>
      let next := rest.head?.getD endOfText
      let ends := endsToken character ||
        (character = ':' && (endsToken next || (inFlow && isFlowIndicator next))) ||
        (inFlow && (character = '?' || isFlowIndicator character))
      if ends then [] else character :: plainWord inFlow rest

/-- Blank lines inside a plain scalar: their breaks, and the cursor unless a document marker stands
at the start of a line. -/
def plainBreaks : Nat → Cursor → List Char × Cursor × Bool
  | 0, cursor => ([], cursor, false)
  | fuel + 1, cursor =>
      if cursor.atAnyMarker && cursor.column = 0 then ([], cursor, true)
      else
        let cursor := cursor.skipSpaces
        match cursor.lineBreak? with
        | none => ([], cursor, false)
        | some (character, cursor) =>
            let (breaks, cursor, marked) := plainBreaks fuel cursor
            (character :: breaks, cursor, marked)

structure PlainGap where
  /-- What the blanks and line breaks are read as; nothing if the scalar cannot go on. -/
  content : List Char
  broke : Bool
  cursor : Cursor

def plainGap (cursor : Cursor) : PlainGap :=
  let blanks := cursor.ahead (· = ' ')
  let cursor := cursor.skipSpaces
  match cursor.lineBreak? with
  | none => ⟨blanks, false, cursor⟩
  | some (first, cursor) =>
      let (further, cursor, marked) := plainBreaks (cursor.rest.length + 1) cursor
      ⟨if marked then [] else folded first further, true, cursor⟩

/-- The words of a plain scalar, the cursor after them, and whether the scalar was followed by a
line break. -/
def plainWords (inFlow : Bool) (indent : Int) :
    Nat → Cursor → Bool → List Char → List Char × Cursor × Bool
  | 0, cursor, broke, _ => ([], cursor, broke)
  | fuel + 1, cursor, broke, gap =>
      let word := if cursor.current = '#' then [] else plainWord inFlow cursor.rest
      if word.isEmpty then ([], cursor, broke)
      else
        let after := (cursor.forward word.length).plainGap
        if after.content.isEmpty || after.cursor.current = '#' ||
            (!inFlow && (after.cursor.column : Int) < indent) then
          (gap ++ word, after.cursor, after.broke)
        else
          let (rest, cursor, broke) :=
            plainWords inFlow indent fuel after.cursor after.broke after.content
          (gap ++ word ++ rest, cursor, broke)

/-- A plain scalar inside a collection of the given indentation. The last part of the result tells
whether the scalar ended at the start of a line. -/
def plain (inFlow : Bool) (parent : Int) (cursor : Cursor) : String × Cursor × Bool :=
  let (content, cursor, broke) :=
    plainWords inFlow (parent + 1) (cursor.rest.length + 1) cursor false []
  (String.ofList content, cursor, broke)

example : ((start "a b: c".toList).plain false (-1)).1 = "a b" := by decide +kernel
example : ((start "a\n b # c".toList).plain false 0).1 = "a b" := by decide +kernel

end Cursor

end ScreenFlow.Yaml
