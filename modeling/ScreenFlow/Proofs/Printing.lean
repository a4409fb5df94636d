import ScreenFlow.Proofs.Numerals
import ScreenFlow.Proofs.Strings
import ScreenFlow.Proofs.Writing

namespace ScreenFlow

/-! Written values as lists of code points. For a plain value, that is one of a JSON text without
fractions or exponents, and a layout that keeps the order of the keys, what the writer makes of the
text after it is an addition at its front. -/

open Outcome

/-! ## Plain values -/

namespace Value

mutual

/-- Whether a value is one that a JSON text without fractions or exponents stands for: the keys of
its mappings are texts and differ. -/
def isPlain : Value → Bool
  | .null | .bool _ | .int _ | .text _ => true
  | .list items => arePlain items
  | .map entries => decide (entries.map Prod.fst).Nodup && entriesArePlain entries
  | _ => false
termination_by structural value => value

def arePlain : List Value → Bool
  | [] => true
  | value :: values => isPlain value && arePlain values
termination_by structural values => values

def entriesArePlain : List (Value × Value) → Bool
  | [] => true
  | (key, value) :: entries => key.text?.isSome && isPlain value && entriesArePlain entries
termination_by structural entries => entries

end

theorem exists_of_text? {key : Value} (named : key.text?.isSome = true) :
    ∃ content, key = .text content := by
  cases key with
  | text content => exact ⟨content, rfl⟩
  | _ => cases named

theorem arePlain_iff {values : List Value} :
    arePlain values = true ↔ ∀ value ∈ values, value.isPlain = true := by
  induction values with
  | nil => simp [arePlain]
  | cons value values induction => simp [arePlain, induction]

theorem entriesArePlain_iff {entries : List (Value × Value)} :
    entriesArePlain entries = true ↔
      ∀ entry ∈ entries, entry.1.text?.isSome = true ∧ entry.2.isPlain = true := by
  induction entries with
  | nil => simp [entriesArePlain]
  | cons entry entries induction => simp [entriesArePlain, induction, and_assoc]

mutual

theorem isJson_of_isPlain : ∀ {value : Value}, value.isPlain = true → value.isJson = true
  | .null, _ | .bool _, _ | .int _, _ | .text _, _ => rfl
  | .list _, plain => areJson_of_arePlain plain
  | .map _, plain => by
      rw [isPlain, Bool.and_eq_true] at plain
      exact entriesAreJson_of_entriesArePlain plain.2
  | .float _, plain | .date _, plain | .moment _, plain | .bytes _, plain | .set _, plain
  | .tuple _, plain | .cyclic _ _, plain | .again _, plain => by simp [isPlain] at plain

theorem areJson_of_arePlain : ∀ {values : List Value}, arePlain values = true →
    areJson values = true
  | [], _ => rfl
  | _ :: _, plain => by
      rw [arePlain, Bool.and_eq_true] at plain
      rw [areJson, isJson_of_isPlain plain.1, areJson_of_arePlain plain.2, Bool.and_self]

theorem entriesAreJson_of_entriesArePlain : ∀ {entries : List (Value × Value)},
    entriesArePlain entries = true → entriesAreJson entries = true
  | [], _ => rfl
  | (_, _) :: _, plain => by
      rw [entriesArePlain, Bool.and_eq_true, Bool.and_eq_true] at plain
      rw [entriesAreJson, plain.1.1, isJson_of_isPlain plain.1.2,
        entriesAreJson_of_entriesArePlain plain.2]
      rfl

end

end Value

/-! ## Rows -/

namespace Json

namespace Layout

def rows (layout : Layout) (level : Nat) (right : Point) : List (List Point) → List Point
  | [] => []
  | [row] => row ++ (layout.newLine level ++ [right])
  | row :: next :: others =>
      row ++ (layout.between (level + 1) ++ layout.rows level right (next :: others))

def bracket (layout : Layout) (level : Nat) (left right : Point) : List (List Point) → List Point
  | [] => [left, right]
  | row :: others => left :: (layout.newLine (level + 1) ++ layout.rows level right (row :: others))

def ahead (text : List Point) : Written := (text ++ ·)

theorem join_ahead (layout : Layout) (level : Nat) (right : Point) (row : List Point)
    (others : List (List Point)) (rest : List Point) :
    row ++ layout.join (level + 1) (others.map ahead) (layout.newLine level ++ right :: rest) =
      layout.rows level right (row :: others) ++ rest := by
  induction others generalizing row with
  | nil => simp [join, rows]
  | cons next others induction =>
      rw [List.map_cons, join, rows, ahead, induction]
      simp

theorem entry_ahead (escapesUnicode : Bool) (name : Text) (text : List Point) :
    (writeText escapesUnicode name ++ .char ':' :: .char ' ' :: ahead text ·) =
      ahead (writeText escapesUnicode name ++ .char ':' :: .char ' ' :: text) := by
  funext rest
  simp [ahead]

theorem enclose_ahead (layout : Layout) (level : Nat) (left right : Point)
    (texts : List (List Point)) :
    layout.enclose level left right (texts.map ahead) =
      ahead (layout.bracket level left right texts) := by
  funext rest
  cases texts with
  | nil => rfl
  | cons row others =>
      rw [List.map_cons, enclose, ahead, join_ahead]
      simp [ahead, bracket]

end Layout

/-! ## Printed values -/

mutual

def printed (layout : Layout) (level : Nat) : Value → List Point
  | .null => (Text.ofString "null").toList
  | .bool flag => (if flag then "true" else "false" : Text).toList
  | .int number => (Text.ofString (toString number)).toList
  | .text content => writeText layout.escapesUnicode content
  | .list items => layout.bracket level '[' ']' (printedItems layout (level + 1) items)
  | .map entries => layout.bracket level '\x7b' '\x7d' (printedEntries layout (level + 1) entries)
  | _ => []
termination_by structural value => value

def printedItems (layout : Layout) (level : Nat) : List Value → List (List Point)
  | [] => []
  | value :: values => printed layout level value :: printedItems layout level values
termination_by structural values => values

def printedEntries (layout : Layout) (level : Nat) : List (Value × Value) → List (List Point)
  | [] => []
  | (key, value) :: entries =>
      (writeText layout.escapesUnicode (key.text?.getD "") ++
        .char ':' :: .char ' ' :: printed layout level value) :: printedEntries layout level entries
termination_by structural entries => entries

end

theorem inside_eq_ok_iff {α : Type} {level : Nat} {step : Except Fault α} {result : α} :
    inside level step = .ok result ↔ level < maxNesting ∧ step = .ok result := by
  rw [inside]
  split
  · next shallow => exact (and_iff_right shallow).symm
  · next deep => exact iff_of_false (by simp) fun given => deep given.1

theorem writeAt_int_eq_ok {layout : Layout} {level : Nat} {number : Int} {written : Written}
    (succeeded : writeAt layout level (.int number) = .ok written) :
    written = Layout.ahead (Text.ofString (toString number)).toList ∧
      Whole.isWritable number = true := by
  rw [writeAt, map_eq_ok] at succeeded
  · rcases succeeded with ⟨text, spelled, rfl⟩
    rw [scalarText] at spelled
    split at spelled
    · next writable =>
        rw [← Except.ok.inj spelled]
        exact ⟨rfl, writable⟩
    · cases spelled
  all_goals simp

section Printing

variable {layout : Layout}

theorem writeAt_map_eq_ok_iff (unsorted : layout.sortsKeys = false) {level : Nat}
    {entries : List (Value × Value)} {written : Written} :
    writeAt layout level (.map entries) = .ok written ↔ ∃ rows, level < maxNesting ∧
      (writeEntries layout (level + 1) entries).mapM (joinEntry layout) = .ok rows ∧
        layout.enclose level '\x7b' '\x7d' rows = written := by
  rw [writeAt, map_eq_ok, joinEntries_eq, arrange, unsorted]
  simp only [inside_eq_ok_iff, and_assoc]
  rfl

/-- The rows of joined entries: the first one is a name and then its value, in front of whatever
follows. -/
theorem joined_cons_eq_ok {level : Nat} {key value : Value} {entries : List (Value × Value)}
    {rows : List Written}
    (joined : (writeEntries layout level ((key, value) :: entries)).mapM (joinEntry layout) =
      .ok rows) :
    ∃ name inner others, keyText key = .ok name ∧ writeAt layout level value = .ok inner ∧
      (writeEntries layout level entries).mapM (joinEntry layout) = .ok others ∧
        rows = (writeText layout.escapesUnicode name ++ .char ':' :: .char ' ' :: inner ·) ::
          others := by
  rw [writeEntries, List.mapM_cons] at joined
  rcases bind_eq_ok.mp joined with ⟨first, entered, later⟩
  rcases bind_eq_ok.mp later with ⟨others, continued, listed⟩
  rcases bind_eq_ok.mp entered with ⟨name, named, valued⟩
  rcases bind_eq_ok.mp valued with ⟨inner, written, row⟩
  refine ⟨name, inner, others, named, written, continued, ?_⟩
  rw [← pure_eq_ok.mp listed, ← pure_eq_ok.mp row]

mutual

theorem writeAt_eq_ok (unsorted : layout.sortsKeys = false) (level : Nat) :
    ∀ value : Value, value.isPlain = true → ∀ written : Written,
      writeAt layout level value = .ok written →
        written = Layout.ahead (printed layout level value)
  | .null, _ | .bool _, _ | .text _, _ => fun _ succeeded => (Except.ok.inj succeeded).symm
  | .int _, _ => fun _ succeeded => (writeAt_int_eq_ok succeeded).1
  | .list items, plain => by
      intro written succeeded
      rw [writeAt, map_eq_ok] at succeeded
      rcases succeeded with ⟨rows, inner, rfl⟩
      rw [writeAll_eq_ok unsorted (level + 1) items plain rows (inside_eq_ok_iff.mp inner).2,
        Layout.enclose_ahead]
      rfl
  | .map entries, plain => by
      intro written succeeded
      rw [Value.isPlain, Bool.and_eq_true] at plain
      rcases (writeAt_map_eq_ok_iff unsorted).mp succeeded with ⟨rows, -, joined, rfl⟩
      rw [writeEntries_eq_ok unsorted (level + 1) entries plain.2 rows joined,
        Layout.enclose_ahead]
      rfl
  | .float _, plain | .date _, plain | .moment _, plain | .bytes _, plain | .set _, plain
  | .tuple _, plain | .cyclic _ _, plain | .again _, plain => by simp [Value.isPlain] at plain

theorem writeAll_eq_ok (unsorted : layout.sortsKeys = false) (level : Nat) :
    ∀ values : List Value, Value.arePlain values = true → ∀ rows : List Written,
      writeAll layout level values = .ok rows →
        rows = (printedItems layout level values).map Layout.ahead
  | [], _ => fun _ succeeded => (Except.ok.inj succeeded).symm
  | value :: values, plain => by
      intro rows succeeded
      rw [Value.arePlain, Bool.and_eq_true] at plain
      rcases bind_eq_ok.mp succeeded with ⟨first, written, succeeded⟩
      rcases bind_eq_ok.mp succeeded with ⟨others, continued, succeeded⟩
      rw [← pure_eq_ok.mp succeeded, writeAt_eq_ok unsorted level value plain.1 first written,
        writeAll_eq_ok unsorted level values plain.2 others continued]
      rfl

theorem writeEntries_eq_ok (unsorted : layout.sortsKeys = false) (level : Nat) :
    ∀ entries : List (Value × Value), Value.entriesArePlain entries = true → ∀ rows : List Written,
      (writeEntries layout level entries).mapM (joinEntry layout) = .ok rows →
        rows = (printedEntries layout level entries).map Layout.ahead
  | [], _ => fun _ succeeded => (Except.ok.inj succeeded).symm
  | (key, value) :: entries, plain => by
      intro rows succeeded
      rw [Value.entriesArePlain, Bool.and_eq_true, Bool.and_eq_true] at plain
      rcases joined_cons_eq_ok succeeded with
        ⟨name, inner, others, named, written, continued, rfl⟩
      cases key with
      | text content =>
          rcases Except.ok.inj named with rfl
          rw [writeAt_eq_ok unsorted level value plain.1.2 inner written,
            writeEntries_eq_ok unsorted level entries plain.2 others continued, Layout.entry_ahead]
          rfl
      | _ => cases plain.1.1

end

theorem write_eq_ok (unsorted : layout.sortsKeys = false) {value : Value} {text : Text}
    (plain : value.isPlain = true) (written : write layout value = .ok text) :
    text.toList = printed layout 0 value := by
  rcases map_eq_ok.mp written with ⟨inner, succeeded, rfl⟩
  rw [writeAt_eq_ok unsorted 0 value plain inner succeeded, Text.toList_ofList, Layout.ahead,
    List.append_nil]

end Printing

/-! ## ASCII -/

theorem Layout.ascii_newLine (layout : Layout) (level : Nat) : Ascii (layout.newLine level) := by
  rw [newLine]
  cases layout.indent with
  | none => exact ascii_nil
  | some width =>
      refine ascii_cons.mpr ⟨by decide, fun letter member => ?_⟩
      rw [List.eq_of_mem_replicate member]
      decide

theorem Layout.ascii_between (layout : Layout) (level : Nat) : Ascii (layout.between level) := by
  rw [between]
  refine ascii_cons.mpr ⟨by decide, ?_⟩
  cases indent : layout.indent with
  | none => exact ascii_cons.mpr ⟨by decide, ascii_nil⟩
  | some width => simpa [newLine, indent] using layout.ascii_newLine level

theorem Layout.ascii_rows {layout : Layout} {level : Nat} {right : Point}
    (closing : right.toNat < 0x80) : ∀ {rows : List (List Point)}, (∀ row ∈ rows, Ascii row) →
      Ascii (layout.rows level right rows)
  | [], _ => ascii_nil
  | [row], each => by
      rw [rows, ascii_append, ascii_append]
      exact ⟨each row (by simp), layout.ascii_newLine level, ascii_cons.mpr ⟨closing, ascii_nil⟩⟩
  | row :: next :: others, each => by
      rw [List.forall_mem_cons] at each
      rw [rows, ascii_append, ascii_append]
      exact ⟨each.1, layout.ascii_between _, ascii_rows closing each.2⟩

theorem Layout.ascii_bracket {layout : Layout} {level : Nat} {left right : Point}
    {rows : List (List Point)} (opening : left.toNat < 0x80) (closing : right.toNat < 0x80)
    (each : ∀ row ∈ rows, Ascii row) : Ascii (layout.bracket level left right rows) := by
  cases rows with
  | nil => exact ascii_cons.mpr ⟨opening, ascii_cons.mpr ⟨closing, ascii_nil⟩⟩
  | cons row others =>
      rw [bracket, ascii_cons, ascii_append]
      exact ⟨opening, layout.ascii_newLine _, ascii_rows closing each⟩

theorem ascii_toString (number : Int) : Ascii (Text.ofString (toString number)).toList := by
  have digits (size : Nat) : Ascii (digitsOf size) := by
    rw [digitsOf, Ascii, List.forall_mem_map]
    intro digit member
    have range := Char.isDigit_iff_toNat.mp (isDigit_of_mem_toDigits size digit member)
    exact Nat.lt_of_le_of_lt range.2 (by decide)
  cases number with
  | ofNat size =>
      rw [toList_toString_ofNat]
      exact digits size
  | negSucc size =>
      rw [toList_toString_negSucc]
      exact ascii_cons.mpr ⟨by decide, digits (size + 1)⟩

section Ascii

variable {layout : Layout}

mutual

theorem ascii_printed (escaped : layout.escapesUnicode = true) (level : Nat) :
    ∀ value : Value, Ascii (printed layout level value)
  | .null => by
      rw [printed]
      exact ascii_of_all (by decide)
  | .bool flag => by
      rw [printed]
      exact ascii_of_all (by cases flag <;> decide)
  | .int number => ascii_toString number
  | .text content => by
      rw [printed, escaped]
      exact ascii_writeText content
  | .list items =>
      Layout.ascii_bracket (by decide) (by decide) (ascii_printedItems escaped (level + 1) items)
  | .map entries =>
      Layout.ascii_bracket (by decide) (by decide)
        (ascii_printedEntries escaped (level + 1) entries)
  | .float _ | .date _ | .moment _ | .bytes _ | .set _ | .tuple _ | .cyclic _ _ | .again _ =>
      ascii_nil

theorem ascii_printedItems (escaped : layout.escapesUnicode = true) (level : Nat) :
    ∀ values : List Value, ∀ row ∈ printedItems layout level values, Ascii row
  | [] => by simp [printedItems]
  | value :: values =>
      List.forall_mem_cons.mpr
        ⟨ascii_printed escaped level value, ascii_printedItems escaped level values⟩

theorem ascii_printedEntries (escaped : layout.escapesUnicode = true) (level : Nat) :
    ∀ entries : List (Value × Value), ∀ row ∈ printedEntries layout level entries, Ascii row
  | [] => by simp [printedEntries]
  | (key, value) :: entries => by
      rw [printedEntries, List.forall_mem_cons, ascii_append, escaped, ascii_cons, ascii_cons]
      exact ⟨⟨ascii_writeText _, by decide, by decide, ascii_printed escaped level value⟩,
        ascii_printedEntries escaped level entries⟩

end

end Ascii

end Json

end ScreenFlow
