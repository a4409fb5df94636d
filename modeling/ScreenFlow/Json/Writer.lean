import ScreenFlow.Fault
import ScreenFlow.Json.Reader
import ScreenFlow.Number.Shortest
import ScreenFlow.Number.Whole
import ScreenFlow.Value.Same

namespace ScreenFlow.Json

/-! Writing values as JSON text. A layout fixes where line breaks go, which characters are escaped and
whether keys are sorted. Dates, bytes and sets have no JSON form, and neither have mappings with such
keys, numbers with too many digits, and collections that contain themselves or lie inside each other
on too many levels. Of several faults the one that is written first counts. -/

/-- A written text, given as what it makes of the text after it. -/
abbrev Written := List Point → List Point

structure Layout where
  /-- Spaces per level if every entry has a line of its own; otherwise all is on one line. -/
  indent : Option Nat
  escapesUnicode : Bool
  sortsKeys : Bool
  deriving DecidableEq, Repr

namespace Layout

def compact : Layout := ⟨none, true, false⟩

def sorted : Layout := ⟨none, true, true⟩

def indented : Layout := ⟨some 2, true, false⟩

def readable : Layout := ⟨some 2, false, false⟩

def newLine (layout : Layout) (level : Nat) : List Point :=
  layout.indent.elim [] fun width => '\n' :: List.replicate (width * level) ' '

def between (layout : Layout) (level : Nat) : List Point :=
  ',' :: layout.indent.elim [' '] fun width => '\n' :: List.replicate (width * level) ' '

def join (layout : Layout) (level : Nat) : List Written → Written
  | [], rest => rest
  | entry :: entries, rest => layout.between level ++ entry (layout.join level entries rest)

def enclose (layout : Layout) (level : Nat) (left right : Point) : List Written → Written
  | [], rest => left :: right :: rest
  | entry :: entries, rest =>
      left :: (layout.newLine (level + 1) ++
        entry (layout.join (level + 1) entries (layout.newLine level ++ right :: rest)))

end Layout

def escapeUnit (unit : Nat) : List Point := '\\' :: 'u' :: (Text.hex unit 4).map .char

def escapeUnicode (code : Nat) : List Point :=
  if code < 0x10000 then escapeUnit code
  else
    escapeUnit (0xd800 + (code - 0x10000) / 0x400) ++
      escapeUnit (0xdc00 + (code - 0x10000) % 0x400)

def writePoint (escapesUnicode : Bool) (point : Point) : List Point :=
  if point = '"' then ['\\', '"']
  else if point = '\\' then ['\\', '\\']
  else if point = '\n' then ['\\', 'n']
  else if point = '\r' then ['\\', 'r']
  else if point = '\t' then ['\\', 't']
  else if point = '\x08' then ['\\', 'b']
  else if point = '\x0c' then ['\\', 'f']
  else if point.toNat < 0x20 then escapeUnicode point.toNat
  else if escapesUnicode && 0x7f ≤ point.toNat then escapeUnicode point.toNat
  else [point]

def writeText (escapesUnicode : Bool) (content : Text) : List Point :=
  '"' :: (content.toList.flatMap (writePoint escapesUnicode) ++ [.char '"'])

def numberFormat : NumberFormat :=
  { NumberFormat.display with undefinedText := "NaN", infinityText := "Infinity" }

def scalarText : Value → Except Fault Text
  | .null => .ok "null"
  | .bool flag => .ok (if flag then "true" else "false")
  | .int number => if Whole.isWritable number then .ok (toString number) else .error .badValue
  | .float number => .ok (numberFormat.render number)
  | .again _ => .error .badValue
  | _ => .error .wrongKind

def keyText : Value → Except Fault Text
  | .text content => .ok content
  | value => scalarText value

/-! ## The order of keys -/

def keyLess? : Value → Value → Option Bool
  | .text left, .text right => some (left < right)
  | .float left, .float right => some (left.less right)
  | .float left, right => right.whole?.map fun right => left.less (.ofInt right)
  | left, .float right => left.whole?.map fun left => (Binary64.ofInt left).less right
  | left, right => do return (← left.whole?) < (← right.whole?)

def sortEntries? (entries : List (Value × α)) : Option (List (Value × α)) :=
  let positioned := Sequence.indexed entries
  let comparable := positioned.all fun left =>
    positioned.all fun right =>
      left.1 == right.1 || (keyLess? left.2.1 right.2.1).isSome
  if comparable then
    some (Sequence.sort (fun left right => (keyLess? left.1 right.1).getD false) entries)
  else none

/-! ## Values -/

def joinEntries (layout : Layout) (entries : List (Value × Except Fault Written)) :
    Except Fault (List Written) := do
  let ordered ←
    if layout.sortsKeys then orFault .wrongKind (sortEntries? entries) else pure entries
  ordered.mapM fun (key, written) => do
    let name ← keyText key
    let value ← written
    return fun rest => writeText layout.escapesUnicode name ++ Point.char ':' :: ' ' :: value rest

def inside (level : Nat) (written : Except Fault α) : Except Fault α :=
  if level < maxNesting then written else .error .tooDeep

mutual

def writeAt (layout : Layout) (level : Nat) : Value → Except Fault Written
  | .text content => .ok (writeText layout.escapesUnicode content ++ ·)
  | .list items | .tuple items =>
      (inside level (writeAll layout (level + 1) items)).map (layout.enclose level '[' ']')
  | .map entries =>
      (inside level (joinEntries layout (writeEntries layout (level + 1) entries))).map
        (layout.enclose level '\x7b' '\x7d')
  | .cyclic _ content => writeAt layout level content
  | value => (scalarText value).map fun text => (text.toList ++ ·)
termination_by structural value => value

def writeAll (layout : Layout) (level : Nat) : List Value → Except Fault (List Written)
  | [] => .ok []
  | value :: values => do
      let first ← writeAt layout level value
      let rest ← writeAll layout level values
      return first :: rest
termination_by structural values => values

def writeEntries (layout : Layout) (level : Nat) :
    List (Value × Value) → List (Value × Except Fault Written)
  | [] => []
  | (key, value) :: entries =>
      (key, writeAt layout level value) :: writeEntries layout level entries
termination_by structural entries => entries

end

def write (layout : Layout) (value : Value) : Except Fault Text :=
  (writeAt layout 0 value).map fun written => ⟨written []⟩

example : write .compact (.map [(.text "a", .list [.int 1, .null])]) =
    .ok "\x7b\"a\": [1, null]\x7d" := by decide +kernel
example : write .indented (.list [.text "é"]) = .ok "[\n  \"\\u00e9\"\n]" := by decide +kernel
example : write .sorted (.map [(.int 2, .null), (.int 1, .null)]) =
    .ok "\x7b\"1\": null, \"2\": null\x7d" := by decide +kernel
example : write .compact (.bytes []) = .error .wrongKind := by decide +kernel
example : write .compact (.cyclic 0 (.list [.again 0])) = .error .badValue := by decide +kernel

end ScreenFlow.Json
