import ScreenFlow.Proofs.Printing
import ScreenFlow.Text.Encoded

namespace ScreenFlow

/-! Which texts of values can be encoded. What is displayed can, but for a text that is displayed as
it is. A layout with escapes writes nothing but ASCII. Any other writes surrogates as they are, so
that its text can be encoded exactly if the value holds none. -/

open Outcome

namespace Text

theorem isEncodable_append (left right : Text) :
    (left ++ right).isEncodable = (left.isEncodable && right.isEncodable) :=
  List.all_append

theorem isEncodable_intercalate {separator : Text} (plain : separator.isEncodable = true)
    {texts : List Text} (each : ∀ text ∈ texts, text.isEncodable = true) :
    (intercalate separator texts).isEncodable = true := by
  fun_induction intercalate separator texts with
  | case1 => rfl
  | case2 text => exact each text List.mem_cons_self
  | case3 text texts filled induction =>
      rw [List.forall_mem_cons] at each
      rw [isEncodable_append, isEncodable_append, each.1, plain, induction each.2]
      rfl

theorem isEncodable_enclosed (opening closing : String) {texts : List Text}
    (each : ∀ text ∈ texts, text.isEncodable = true) :
    ((opening : Text) ++ intercalate ", " texts ++ (closing : Text)).isEncodable = true := by
  rw [isEncodable_append, isEncodable_append, isEncodable_intercalate rfl each]
  simp

theorem encode_ofString (string : String) : encode string = .ok (Utf8.encode string) := by
  rw [encode, string?_ofString]
  rfl

theorem succeeds_encode_iff {text : Text} : Succeeds text.encode ↔ text.isEncodable = true := by
  rw [encode, ← isSome_string?]
  cases text.string? <;> simp [Succeeds, orFault]

theorem encode_of_surrogate {text : Text} (surrogate : text.isEncodable = false) :
    text.encode = .error .unencodable := by
  rw [← isSome_string?, Option.isSome_eq_false_iff, Option.isNone_iff_eq_none] at surrogate
  rw [encode, surrogate]
  rfl

theorem unrejected_encode (text : Text) : Unrejected text.encode :=
  unrejected_orFault (by simp) _

theorem encode_eq_ok_iff {text : Text} {content : List UInt8} :
    text.encode = .ok content ↔
      ∃ string, text = ofString string ∧ Utf8.encode string = content := by
  rw [encode, orFault_eq_ok, Option.map_eq_some_iff]
  simp only [string?_eq_some_iff]

theorem bind_encode_eq_ok_iff {step : Except Fault Text} {content : List UInt8} :
    step >>= encode = .ok content ↔
      ∃ string : String, step = .ok ↑string ∧ Utf8.encode string = content := by
  rw [bind_eq_ok]
  simp only [encode_eq_ok_iff]
  constructor
  · intro given
    rcases given with ⟨_, made, string, rfl, bytes⟩
    exact ⟨string, made, bytes⟩
  · intro given
    rcases given with ⟨string, made, bytes⟩
    exact ⟨string, made, string, rfl, bytes⟩

end Text

/-! ## Values without surrogates -/

namespace Value

mutual

/-- Whether the texts of a value, its keys among them, hold no surrogates. -/
def isEncodable : Value → Bool
  | .text content => content.isEncodable
  | .list items | .tuple items => areEncodable items
  | .map entries => entriesAreEncodable entries
  | .cyclic _ content => isEncodable content
  | _ => true
termination_by structural value => value

def areEncodable : List Value → Bool
  | [] => true
  | value :: values => isEncodable value && areEncodable values
termination_by structural values => values

def entriesAreEncodable : List (Value × Value) → Bool
  | [] => true
  | (key, value) :: entries => isEncodable key && isEncodable value && entriesAreEncodable entries
termination_by structural entries => entries

end

theorem areEncodable_iff {values : List Value} :
    areEncodable values = true ↔ ∀ value ∈ values, value.isEncodable = true := by
  induction values with
  | nil => simp [areEncodable]
  | cons value values induction => simp [areEncodable, induction]

theorem entriesAreEncodable_iff {entries : List (Value × Value)} :
    entriesAreEncodable entries = true ↔
      ∀ entry ∈ entries, entry.1.isEncodable = true ∧ entry.2.isEncodable = true := by
  induction entries with
  | nil => simp [entriesAreEncodable]
  | cons entry entries induction => simp [entriesAreEncodable, induction, and_assoc]

end Value

/-! ## Displayed values -/

namespace Text

theorem isPrintable_surrogate (index : Fin 0x800) : isPrintable (.surrogate index) = false := by
  have outside :
      printableRanges.all (fun range => range.2 < 0xd800 || 0xe000 ≤ range.1) = true := by
    decide +kernel
  rw [List.all_eq_true] at outside
  rw [isPrintable, if_neg (by rw [Point.toNat]; omega), inRanges, List.any_eq_false]
  intro range member
  have apart := outside range member
  simp only [Bool.or_eq_true, decide_eq_true_eq] at apart
  have inside : (Point.surrogate index).toNat = 0xd800 + index := rfl
  simp only [Bool.and_eq_true, decide_eq_true_eq]
  omega

theorem isChar_quoteFor (content : List Point) : (quoteFor content).isChar = true := by
  rw [quoteFor]
  split <;> rfl

theorem all_isChar_quotePoint {quote : Point} (closing : quote.isChar = true) (point : Point) :
    (quotePoint quote point).all Point.isChar = true := by
  cases point with
  | char character =>
      rw [quotePoint]
      split_ifs
      all_goals first | rfl | exact Point.all_isChar_map _
  | surrogate index =>
      have other : Point.surrogate index ≠ quote := by
        rintro rfl
        cases closing
      simp only [quotePoint, other, reduceCtorEq, isPrintable_surrogate, decide_false,
        Bool.or_self, Bool.false_eq_true, if_false]
      exact Point.all_isChar_map _

theorem isEncodable_quoted (text : Text) : text.quoted.isEncodable = true := by
  have closing := isChar_quoteFor text.toList
  simp [quoted, isEncodable, closing, all_isChar_quotePoint closing]

theorem isEncodable_quotedBytes (content : List UInt8) :
    (quotedBytes content).isEncodable = true := by
  have closing := isChar_quoteFor (content.map fun byte => .ofNat byte.toNat)
  have each (byte : UInt8) :
      (quoteByte (quoteFor (content.map fun byte => .ofNat byte.toNat)) byte).all Point.isChar =
        true := by
    rw [quoteByte]
    split
    · exact all_isChar_quotePoint closing _
    · exact Point.all_isChar_map _
  simp [quotedBytes, isEncodable, closing, each, show (Point.char 'b').isChar = true from rfl]

end Text

namespace Value

theorem isEncodable_ellipsis (value : Value) : value.ellipsis.isEncodable = true := by
  rw [ellipsis.eq_def]
  split <;> rfl

mutual

theorem isEncodable_innerWithin (around : List (Nat × Value)) :
    ∀ value : Value, (innerWithin around value).isEncodable = true
  | .null => rfl
  | .bool flag => by cases flag <;> rfl
  | .int number => Text.isEncodable_ofString _
  | .float number => Text.isEncodable_ofString _
  | .text content => content.isEncodable_quoted
  | .list items => Text.isEncodable_enclosed _ _ (isEncodable_innerAll around items)
  | .map entries => Text.isEncodable_enclosed _ _ (isEncodable_innerEntries around entries)
  | .date day => Text.isEncodable_ofString _
  | .moment stamp => Text.isEncodable_ofString _
  | .bytes content => Text.isEncodable_quotedBytes content
  | .set [] => rfl
  | .set (first :: members) =>
      Text.isEncodable_enclosed _ _ (isEncodable_innerAll around (first :: members))
  | .tuple [] => rfl
  | .tuple [item] => by
      simp [innerWithin, Text.isEncodable_append, isEncodable_innerWithin around item]
  | .tuple (first :: second :: items) =>
      Text.isEncodable_enclosed _ _ (isEncodable_innerAll around (first :: second :: items))
  | .cyclic label content => by
      rw [innerWithin]
      split
      · exact isEncodable_ellipsis content
      · exact isEncodable_innerWithin _ content
  | .again label => by
      rw [innerWithin]
      cases around.find? (·.1 == label) with
      | none => rfl
      | some found => exact isEncodable_ellipsis found.2

theorem isEncodable_innerAll (around : List (Nat × Value)) :
    ∀ values : List Value, ∀ text ∈ innerAll around values, text.isEncodable = true
  | [] => by simp [innerAll]
  | value :: values => by
      rw [innerAll, List.forall_mem_cons]
      exact ⟨isEncodable_innerWithin around value, isEncodable_innerAll around values⟩

theorem isEncodable_innerEntries (around : List (Nat × Value)) :
    ∀ entries : List (Value × Value), ∀ text ∈ innerEntries around entries, text.isEncodable = true
  | [] => by simp [innerEntries]
  | (key, value) :: entries => by
      rw [innerEntries, List.forall_mem_cons]
      refine ⟨?_, isEncodable_innerEntries around entries⟩
      simp [Text.isEncodable_append, isEncodable_innerWithin around key,
        isEncodable_innerWithin around value]

end

theorem isEncodable_display {value : Value} (encodable : value.isEncodable = true) :
    value.display.isEncodable = true := by
  cases value with
  | text content => exact encodable
  | date day => exact Text.isEncodable_ofString _
  | moment stamp => exact Text.isEncodable_ofString _
  | _ => exact isEncodable_innerWithin [] _

end Value

/-! ## Written values -/

namespace Json

theorem all_isChar_of_ascii {text : List Point} (ascii : Ascii text) :
    text.all Point.isChar = true := by
  rw [List.all_eq_true]
  intro point member
  cases point with
  | char character => rfl
  | surrogate index =>
      have small := ascii _ member
      rw [Point.toNat] at small
      omega

theorem all_isChar_writePoint (escapesUnicode : Bool) (point : Point) :
    (writePoint escapesUnicode point).all Point.isChar = (escapesUnicode || point.isChar) := by
  have spelled := spelling_writePoint escapesUnicode point
  generalize writePoint escapesUnicode point = written at spelled ⊢
  cases spelled with
  | letter escape same =>
      have ascii := ascii_cons.mpr ⟨ascii_of_escaped? escape, ascii_nil⟩
      rw [same, List.all_cons, all_isChar_of_ascii ascii, Bool.or_comm]
      rfl
  | number escaped =>
      rw [all_isChar_of_ascii (ascii_escapeUnicode _)]
      rcases escaped with escaped | control
      · rw [escaped, Bool.true_or]
      · have small : Ascii [point] := ascii_cons.mpr ⟨by omega, ascii_nil⟩
        have plain := all_isChar_of_ascii small
        rw [List.all_cons, List.all_nil, Bool.and_true] at plain
        rw [plain, Bool.or_true]
  | plain quote backslash printable ascii =>
      rw [List.all_cons, List.all_nil, Bool.and_true]
      cases escapesUnicode with
      | false => rfl
      | true =>
          have small := ascii rfl
          have plain := all_isChar_of_ascii (ascii_cons.mpr ⟨by omega, ascii_nil⟩ : Ascii [point])
          rwa [List.all_cons, List.all_nil, Bool.and_true] at plain

theorem all_isChar_writeText (escapesUnicode : Bool) (content : Text) :
    (writeText escapesUnicode content).all Point.isChar =
      (escapesUnicode || content.isEncodable) := by
  have each : (content.toList.flatMap (writePoint escapesUnicode)).all Point.isChar =
      (escapesUnicode || content.isEncodable) := by
    rw [List.all_flatMap, Text.isEncodable]
    simp only [all_isChar_writePoint]
    cases escapesUnicode <;> simp
  rw [writeText, List.all_cons, List.all_append, each]
  simp [Point.isChar, Point.char?]

namespace Layout

variable {layout : Layout} {left right : Point}

theorem all_isChar_rows (level : Nat) (closing : right.isChar = true) : ∀ rows : List (List Point),
    (layout.rows level right rows).all Point.isChar =
      rows.all fun row => row.all Point.isChar
  | [] => rfl
  | [row] => by
      simp [rows, all_isChar_of_ascii (layout.ascii_newLine level), closing]
  | row :: next :: others => by
      rw [rows, List.all_append, List.all_append, all_isChar_of_ascii (layout.ascii_between _),
        all_isChar_rows level closing (next :: others), Bool.true_and]
      rfl

theorem all_isChar_bracket (level : Nat) (opening : left.isChar = true)
    (closing : right.isChar = true) (rows : List (List Point)) :
    (layout.bracket level left right rows).all Point.isChar =
      rows.all fun row => row.all Point.isChar := by
  cases rows with
  | nil => simp [bracket, opening, closing]
  | cons row others =>
      rw [bracket, List.all_cons, List.all_append, all_isChar_of_ascii (layout.ascii_newLine _),
        all_isChar_rows level closing, opening, Bool.true_and, Bool.true_and]

end Layout

theorem isEncodable_of_scalarText {value : Value} {text : Text}
    (spelled : scalarText value = .ok text) : text.isEncodable = value.isEncodable := by
  cases value with
  | null | bool _ | float _ =>
      rw [← Except.ok.inj spelled]
      simp [Value.isEncodable, apply_ite Text.isEncodable]
  | int number =>
      rw [scalarText] at spelled
      split at spelled
      · rw [← Except.ok.inj spelled, Text.isEncodable_ofString]
        rfl
      · cases spelled
  | _ => cases spelled

theorem isEncodable_of_keyText {key : Value} {name : Text} (named : keyText key = .ok name) :
    name.isEncodable = key.isEncodable := by
  cases key with
  | text content =>
      rw [← Except.ok.inj named]
      rfl
  | _ => exact isEncodable_of_scalarText named

section Writing

variable {layout : Layout}

mutual

theorem exists_ahead_of_writeAt (unsorted : layout.sortsKeys = false) (level : Nat) :
    ∀ (value : Value) (written : Written), writeAt layout level value = .ok written →
      ∃ text, written = Layout.ahead text ∧
        text.all Point.isChar = (layout.escapesUnicode || value.isEncodable)
  | .text content => fun _ succeeded =>
      ⟨_, (Except.ok.inj succeeded).symm, all_isChar_writeText layout.escapesUnicode content⟩
  | .list items | .tuple items => by
      intro written succeeded
      rw [writeAt, map_eq_ok] at succeeded
      rcases succeeded with ⟨rows, inner, rfl⟩
      rcases exists_ahead_of_writeAll unsorted (level + 1) items rows
        (inside_eq_ok_iff.mp inner).2 with ⟨texts, rfl, same⟩
      rw [Layout.enclose_ahead]
      exact ⟨_, rfl, (Layout.all_isChar_bracket level rfl rfl texts).trans same⟩
  | .map entries => by
      intro written succeeded
      rcases (writeAt_map_eq_ok_iff unsorted).mp succeeded with ⟨rows, -, joined, rfl⟩
      rcases exists_ahead_of_writeEntries unsorted (level + 1) entries rows joined with
        ⟨texts, rfl, same⟩
      rw [Layout.enclose_ahead]
      exact ⟨_, rfl, (Layout.all_isChar_bracket level rfl rfl texts).trans same⟩
  | .cyclic _ content => exists_ahead_of_writeAt unsorted level content
  | .null | .bool _ | .int _ | .float _ | .date _ | .moment _ | .bytes _ | .set _ | .again _ => by
      intro written succeeded
      rcases map_eq_ok.mp succeeded with ⟨text, spelled, rfl⟩
      have plain := isEncodable_of_scalarText spelled
      exact ⟨text.toList, rfl, by simpa [Value.isEncodable, Text.isEncodable] using plain⟩

theorem exists_ahead_of_writeAll (unsorted : layout.sortsKeys = false) (level : Nat) :
    ∀ (values : List Value) (rows : List Written), writeAll layout level values = .ok rows →
      ∃ texts : List (List Point), rows = texts.map Layout.ahead ∧
        (texts.all fun row => row.all Point.isChar) =
          (layout.escapesUnicode || Value.areEncodable values)
  | [] => fun _ succeeded => ⟨[], (Except.ok.inj succeeded).symm, (Bool.or_true _).symm⟩
  | value :: values => by
      intro rows succeeded
      rcases bind_eq_ok.mp succeeded with ⟨first, written, succeeded⟩
      rcases bind_eq_ok.mp succeeded with ⟨others, continued, succeeded⟩
      rcases exists_ahead_of_writeAt unsorted level value first written with ⟨text, rfl, same⟩
      rcases exists_ahead_of_writeAll unsorted level values others continued with
        ⟨texts, rfl, all⟩
      refine ⟨text :: texts, (pure_eq_ok.mp succeeded).symm, ?_⟩
      rw [List.all_cons, same, all, Value.areEncodable, Bool.or_and_distrib_left]

theorem exists_ahead_of_writeEntries (unsorted : layout.sortsKeys = false) (level : Nat) :
    ∀ (entries : List (Value × Value)) (rows : List Written),
      (writeEntries layout level entries).mapM (joinEntry layout) = .ok rows →
        ∃ texts : List (List Point), rows = texts.map Layout.ahead ∧
          (texts.all fun row => row.all Point.isChar) =
            (layout.escapesUnicode || Value.entriesAreEncodable entries)
  | [] => fun _ succeeded => ⟨[], (Except.ok.inj succeeded).symm, (Bool.or_true _).symm⟩
  | (key, value) :: entries => by
      intro rows succeeded
      rcases joined_cons_eq_ok succeeded with
        ⟨name, inner, others, named, written, continued, rfl⟩
      rcases exists_ahead_of_writeAt unsorted level value inner written with ⟨text, rfl, same⟩
      rcases exists_ahead_of_writeEntries unsorted level entries others continued with
        ⟨texts, rfl, all⟩
      have first : (writeText layout.escapesUnicode name ++
          .char ':' :: .char ' ' :: text).all Point.isChar =
            (layout.escapesUnicode || (key.isEncodable && value.isEncodable)) := by
        rw [List.all_append, List.all_cons, List.all_cons, same, all_isChar_writeText,
          isEncodable_of_keyText named, Bool.or_and_distrib_left]
        rfl
      rw [Layout.entry_ahead]
      refine ⟨_ :: texts, rfl, ?_⟩
      rw [List.all_cons, first, all, ← Bool.or_and_distrib_left, Value.entriesAreEncodable]

end

theorem isEncodable_of_write (unsorted : layout.sortsKeys = false) {value : Value} {text : Text}
    (written : write layout value = .ok text) :
    text.isEncodable = (layout.escapesUnicode || value.isEncodable) := by
  rcases map_eq_ok.mp written with ⟨inner, succeeded, rfl⟩
  rcases exists_ahead_of_writeAt unsorted 0 value inner succeeded with ⟨points, rfl, same⟩
  rw [Text.isEncodable, Layout.ahead, List.append_nil]
  exact same

theorem succeeds_write_encode_iff (unsorted : layout.sortsKeys = false)
    (unescaped : layout.escapesUnicode = false) {value : Value} :
    Succeeds (write layout value >>= Text.encode) ↔
      value.isEncodable = true ∧ Succeeds (write layout value) := by
  have legible {text : Text} (written : write layout value = .ok text) :
      Succeeds text.encode ↔ value.isEncodable = true := by
    rw [Text.succeeds_encode_iff, isEncodable_of_write unsorted written, unescaped, Bool.false_or]
  rw [succeeds_bind_iff]
  constructor
  · intro given
    rcases given with ⟨text, written, encoded⟩
    exact ⟨(legible written).mp encoded, text, written⟩
  · intro given
    rcases given with ⟨encodable, text, written⟩
    exact ⟨text, written, (legible written).mpr encodable⟩

end Writing

end Json

end ScreenFlow
