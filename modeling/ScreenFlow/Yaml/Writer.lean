import ScreenFlow.Number.Shortest
import ScreenFlow.Text.Base64
import ScreenFlow.Value.Rendered
import ScreenFlow.Yaml.Cursor
import ScreenFlow.Yaml.Page
import ScreenFlow.Yaml.Tag
import ScreenFlow.Yaml.Timestamp

namespace ScreenFlow.Yaml

/-! Writing values as YAML text. Collections are written one entry a line, and scalars plain where
their form tells their kind, between single quotes where their characters allow it, and between
double quotes otherwise. Only ASCII characters are written as they are. A collection that contains
itself is written once, with an anchor, and its other places are aliases. -/

/-! ## Scalars -/

/-- A scalar to be written: its kind, its content, and whether it is a literal of several lines. -/
structure WrittenScalar where
  tag : Tag
  content : List Point
  literal : Bool
  deriving DecidableEq, Repr

def numberFormat : NumberFormat :=
  { NumberFormat.display with undefinedText := ".nan", infinityText := ".inf" }

def withPoint (text : List Char) : List Char :=
  if text.contains '.' then text
  else text.takeWhile (· ≠ 'e') ++ (if text.contains 'e' then ['.', '0'] else []) ++
    text.dropWhile (· ≠ 'e')

def wrapped : Nat → List Char → List Char
  | 0, _ => []
  | fuel + 1, text =>
      if text.isEmpty then [] else text.take 76 ++ '\n' :: wrapped fuel (text.drop 76)

def WrittenScalar.ofChars (tag : Tag) (content : List Char) : WrittenScalar :=
  ⟨tag, content.map .char, false⟩

/-- The content with a replacement character for each surrogate: neither can stand without an
escape. -/
def WrittenScalar.characters (scalar : WrittenScalar) : List Char :=
  (Text.ofList scalar.content).lossy.toList

def WrittenScalar.ofValue? : Value → Option WrittenScalar
  | .null => some (.ofChars .null "null".toList)
  | .bool flag => some (.ofChars .bool (if flag then "true" else "false").toList)
  | .int number => some (.ofChars .int (toString number).toList)
  | .float number => some (.ofChars .float (withPoint (numberFormat.render number).toList))
  | .text content => some ⟨.text, content.toList, false⟩
  | .date day => some (.ofChars .timestamp day.render.toList)
  | .moment stamp => some (.ofChars .timestamp stamp.render.toList)
  | .bytes content =>
      let digits := Text.Base64.encode content
      some ⟨.binary, (wrapped (digits.length + 1) digits).map .char, true⟩
  | _ => none

def shortTag (tag : Tag) : List Char :=
  '!' :: '!' :: (((Tag.names.find? fun entry => entry.2 == tag).map Prod.fst).getD "").toList

inductive Style where
  | plain
  | single
  | double
  | literal
  deriving DecidableEq, Repr

namespace WrittenScalar

def breaksLine (character : Char) : Bool :=
  character = '\n' || character = '\x85' || character = '\u2028' || character = '\u2029'

def isMultiline (scalar : WrittenScalar) : Bool := scalar.characters.any breaksLine

def isSpecial (character : Char) : Bool :=
  !(character = '\n' || (' ' ≤ character && character ≤ '~'))

def anyAdjacent (accepts : Char → Char → Bool) : List Char → Bool
  | first :: second :: rest => accepts first second || anyAdjacent accepts (second :: rest)
  | _ => false

def startsAsIndicator (content : List Char) : Bool :=
  let blankNext := content[1]?.all endsToken
  match content with
  | [] => false
  | first :: _ =>
      "#,[]\x7b\x7d&*!|>'\"%@\x60".toList.contains first ||
        ("?:-".toList.contains first && blankNext)

/-- Whether some later character would be taken for an indicator: a colon before a blank, or a
hash sign after one. -/
def holdsIndicator (content : List Char) : Bool :=
  (content.length > 1 && content.getLast? = some ':') ||
    anyAdjacent (fun first second => endsToken first && second = '#') content ||
    anyAdjacent (fun first second => first = ':' && endsToken second) (content.drop 1)

def allowsPlain (content : List Char) : Bool :=
  !(startsAsIndicator content || holdsIndicator content || content.any isSpecial ||
    content.any breaksLine || content.head? = some ' ' || content.getLast? = some ' ' ||
    "---".toList.isPrefixOf content || "...".toList.isPrefixOf content)

def allowsSingle (content : List Char) : Bool :=
  !(content.any isSpecial ||
    anyAdjacent (fun first second =>
      (first = ' ' && second = '\n') || (first = '\n' && second = ' ')) content)

def tellsKind (scalar : WrittenScalar) : Bool :=
  Tag.ofPlain WrittenTimestamp.isTimestamp scalar.characters == scalar.tag

/-- The way to write a scalar. A key on one line with its value cannot be empty or of several
lines. -/
def style (asKey : Bool) (scalar : WrittenScalar) : Style :=
  if scalar.literal then
    if asKey || scalar.content.isEmpty then .double else .literal
  else if scalar.tellsKind && allowsPlain scalar.characters &&
      !(asKey && (scalar.content.isEmpty || scalar.isMultiline)) then .plain
  else if allowsSingle scalar.characters && !(asKey && scalar.isMultiline) then .single
  else .double

/-- Whether the tag has to be written: a plain scalar tells its kind by its form, and any other is
a text. -/
def needsTag (style : Style) (scalar : WrittenScalar) : Bool :=
  match style with
  | .plain => !scalar.tellsKind
  | _ => scalar.tag != .text

def isSimpleKey (scalar : WrittenScalar) : Bool :=
  (shortTag scalar.tag).length + scalar.content.length < 128 && !scalar.content.isEmpty &&
    !scalar.isMultiline

end WrittenScalar

/-! ## Styles -/

def sameRun (left right : Char) : Bool :=
  (left = ' ') = (right = ' ') && (left = '\n') = (right = '\n')

def writePlainRuns (splits : Bool) (indent : Nat) : List (List Char) → Page → Page
  | [], page => page
  | run :: runs, page =>
      let page :=
        if run = [' '] && page.column > pageWidth && splits then (page.indentTo indent).taken
        else page.put run
      writePlainRuns splits indent runs page

def writePlain (splits : Bool) (indent : Nat) (content : List Char) (page : Page) : Page :=
  if content.isEmpty then page
  else
    let page := (if page.spaced then page else page.put [' ']).taken
    writePlainRuns splits indent (content.splitBy sameRun) page

/-- Words, blanks and line breaks between single quotes. A quote is written twice, and line breaks
once more than there are. -/
def writeSingleRuns (splits : Bool) (indent : Nat) : Bool → List (List Char) → Page → Page
  | _, [], page => page
  | first, run :: runs, page =>
      let page :=
        if run.head? = some '\n' then
          (run.foldl (fun page _ => page.lineBreak) page.lineBreak).indentTo indent
        else if run = [' '] && page.column > pageWidth && splits && !first && !runs.isEmpty then
          page.indentTo indent
        else
          page.put (run.flatMap fun character =>
            if character = '\'' then ['\'', '\''] else [character])
      writeSingleRuns splits indent false runs page

def writeSingle (splits : Bool) (indent : Nat) (content : List Char) (page : Page) : Page :=
  (writeSingleRuns splits indent true (content.splitBy sameRun)
    (page.indicator ['\''] true false false)).indicator ['\''] false false false

def upperHex (number width : Nat) : List Char := (Text.hex number width).map Char.toUpper

def escape (point : Point) : List Char :=
  let short :=
    [('\x00', '0'), ('\x07', 'a'), ('\x08', 'b'), ('\t', 't'), ('\n', 'n'), ('\x0b', 'v'),
      ('\x0c', 'f'), ('\r', 'r'), ('\x1b', 'e'), ('"', '"'), ('\\', '\\'), ('\x85', 'N'),
      ('\u00a0', '_'), ('\u2028', 'L'), ('\u2029', 'P')]
  match short.find? fun entry => .char entry.1 == point with
  | some (_, letter) => ['\\', letter]
  | none =>
      let code := point.toNat
      if code < 0x100 then '\\' :: 'x' :: upperHex code 2
      else if code < 0x10000 then '\\' :: 'u' :: upperHex code 4
      else '\\' :: 'U' :: upperHex code 8

/-- The character that stands for a point without an escape. -/
def unescaped? (point : Point) : Option Char :=
  point.char?.filter fun character =>
    character ≠ '"' && character ≠ '\\' && ' ' ≤ character && character ≤ '~'

/-- Characters between double quotes. `pending` holds those that are not written yet. A line may be
broken before a blank and next to an escape; the break is escaped, and so is a blank after it. -/
def writeDoubleChars (splits : Bool) (indent : Nat) :
    Bool → List Char → List Point → Page → Page
  | _, pending, [], page => page.put pending
  | first, pending, point :: rest, page =>
      let plain := unescaped? point
      let escaped := plain.isNone
      let page := if escaped then (page.put pending).put (escape point) else page
      let pending := if escaped then [] else pending
      let reached := if escaped then page.column - 1 else page.column + pending.length
      let mayBreak := splits && !first && !rest.isEmpty &&
        (point = ' ' || escaped || pending.isEmpty)
      if mayBreak && reached > pageWidth then
        let page := ((page.put (pending ++ ['\\'])).indentTo indent).taken
        let next := if escaped then rest.head? else some point
        let page := if next = some (.char ' ') then page.put ['\\'] else page
        writeDoubleChars splits indent false plain.toList rest page
      else writeDoubleChars splits indent false (pending ++ plain.toList) rest page

def writeDouble (splits : Bool) (indent : Nat) (content : List Point) (page : Page) : Page :=
  (writeDoubleChars splits indent true [] content
    (page.indicator ['"'] true false false)).indicator ['"'] false false false

def writeLines (indent : Nat) : List (List Char) → Page → Page
  | [], page => page
  | line :: lines, page =>
      writeLines indent lines ((if line.isEmpty then page else
        { (page.indentTo indent) with
          reversed := line.reverse ++ (page.indentTo indent).reversed }).lineBreak)

def writeLiteral (indent : Nat) (content : List Char) (page : Page) : Page :=
  writeLines indent ((content.splitOn '\n').dropLast)
    (page.indicator ['|'] true false false).lineBreak

/-- A scalar with its tag, if it needs one. The rest of a scalar of several lines is indented. -/
def writeScalar (asKey : Bool) (indent : Nat) (scalar : WrittenScalar) (page : Page) : Page :=
  let style := scalar.style asKey
  let page :=
    if scalar.needsTag style then page.indicator (shortTag scalar.tag) true false false else page
  match style with
  | .plain => writePlain (!asKey) indent scalar.characters page
  | .single => writeSingle (!asKey) indent scalar.characters page
  | .double => writeDouble (!asKey) indent scalar.content page
  | .literal => writeLiteral indent scalar.characters page

/-! ## Collections -/

def deeper (outermost : Nat) : Option Nat → Nat
  | none => outermost
  | some indent => indent + 2

def writeEmpty (left right : Char) (page : Page) : Page :=
  (page.indicator [left] true true false).indicator [right] false false false

/-- A key with its colon. A key that cannot stand on one line with its value is marked. -/
def writeKey (indent : Nat) : Value → Page → Page
  | key, page =>
      match WrittenScalar.ofValue? key with
      | some scalar =>
          if scalar.isSimpleKey then
            (writeScalar true (indent + 2) scalar page).indicator [':'] false false false
          else
            let page := page.indicator ['?'] true false true
            ((writeScalar false (indent + 2) scalar page).indentTo indent).indicator [':'] true
              false true
      | none => page

/-! ## Anchors -/

mutual

/-- The labels that are met again, in this order. `met` has the labels met before, and `again` those
that were met again before. -/
def recurring (met again : List Nat) : Value → List Nat × List Nat
  | .cyclic label content =>
      if met.contains label then (met, if again.contains label then again else again ++ [label])
      else recurring (label :: met) again content
  | .again label => (met, if again.contains label then again else again ++ [label])
  | .list items | .tuple items => recurringAll met again items
  | .map entries => recurringEntries met again entries
  | _ => (met, again)
termination_by structural value => value

def recurringAll (met again : List Nat) : List Value → List Nat × List Nat
  | [] => (met, again)
  | value :: values =>
      let (met, again) := recurring met again value
      recurringAll met again values
termination_by structural values => values

def recurringEntries (met again : List Nat) : List (Value × Value) → List Nat × List Nat
  | [] => (met, again)
  | (_, value) :: entries =>
      let (met, again) := recurring met again value
      recurringEntries met again entries
termination_by structural entries => entries

end

def anchorName (position : Nat) : List Char :=
  let digits := (toString (position + 1)).toList
  "id".toList ++ List.replicate (3 - digits.length) '0' ++ digits

def writeAnchor (mark : Char) (labels : List Nat) (label : Nat) (page : Page) : Page :=
  page.indicator (mark :: anchorName (labels.idxOf label)) true false false

/-! ## Nodes -/

mutual

/-- A value. `inEntry` tells whether it belongs to an entry of a mapping; a sequence there needs
no further indentation. `labels` are those that need an anchor. -/
def writeNode (labels : List Nat) (indent : Option Nat) (inEntry : Bool) : Value → Page → Page
  | .list [], page | .tuple [], page => writeEmpty '[' ']' page
  | .map [], page => writeEmpty '\x7b' '\x7d' page
  | .set [], page =>
      writeEmpty '\x7b' '\x7d' (page.indicator (shortTag .set) true false false)
  | .list items, page | .tuple items, page =>
      let inner :=
        match indent with
        | some indent => if inEntry && !page.fresh then indent else indent + 2
        | none => 0
      writeItems labels inner items page
  | .map entries, page => writeEntries labels (deeper 0 indent) entries page
  | .set members, page =>
      writeMembers (deeper 0 indent) members
        (page.indicator (shortTag .set) true false false)
  | .cyclic label content, page =>
      if page.anchored.contains label then writeAnchor '*' labels label page
      else if labels.contains label then
        writeNode labels indent inEntry content ((writeAnchor '&' labels label page).anchor label)
      else writeNode labels indent inEntry content page
  | .again label, page => writeAnchor '*' labels label page
  | value, page =>
      match WrittenScalar.ofValue? value with
      | some scalar => writeScalar false (deeper 2 indent) scalar page
      | none => page
termination_by structural value => value

def writeItems (labels : List Nat) (indent : Nat) : List Value → Page → Page
  | [], page => page
  | item :: items, page =>
      writeItems labels indent items (writeNode labels (some indent) false item
        ((page.indentTo indent).indicator ['-'] true false true))
termination_by structural items => items

def writeEntries (labels : List Nat) (indent : Nat) : List (Value × Value) → Page → Page
  | [], page => page
  | (key, value) :: entries, page =>
      writeEntries labels indent entries
        (writeNode labels (some indent) true value (writeKey indent key (page.indentTo indent)))
termination_by structural entries => entries

def writeMembers (indent : Nat) : List Value → Page → Page
  | [], page => page
  | member :: members, page =>
      writeMembers indent members
        (writeScalar false (indent + 2) (.ofChars .null "null".toList)
          (writeKey indent member (page.indentTo indent)))
termination_by structural members => members

end

/-! ## Nesting -/

def maxWrittenNesting : Nat := 329

mutual

def nesting : Value → Nat
  | .list items | .tuple items => nestingAll items + 1
  | .map entries => nestingEntries entries + 1
  | .set _ => 1
  | .cyclic _ content => nesting content
  | _ => 0
termination_by structural value => value

def nestingAll : List Value → Nat
  | [] => 0
  | value :: values => max (nesting value) (nestingAll values)
termination_by structural values => values

def nestingEntries : List (Value × Value) → Nat
  | [] => 0
  | (_, value) :: entries => max (nesting value) (nestingEntries entries)
termination_by structural entries => entries

end

/-- The YAML text of a value. A number with too many digits leaves it without one, and so do too many
levels. -/
def write (value : Value) : Except Fault String :=
  if maxWrittenNesting < nesting value then .error .tooDeep
  else if value.isWritable then
    let labels := (recurring [] [] value).2
    .ok ((writeNode labels none false value .empty).indentTo 0).text
  else .error .badValue

example : write (.map [(.text "a", .list [.int 1, .text "yes"])]) = .ok "a:\n- 1\n- 'yes'\n" := by
  decide +kernel
example : write (.map [(.text "a", .cyclic 7 (.list [.again 7]))]) =
    .ok "a: &id001\n- *id001\n" := by decide +kernel

end ScreenFlow.Yaml
