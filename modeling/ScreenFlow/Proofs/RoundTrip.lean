import ScreenFlow.Proofs.Encodable
import ScreenFlow.Proofs.Fractions

namespace ScreenFlow

/-! Reading what was written. The reader takes a written value from the front of a text and leaves
what follows, at any depth, with fuel that grows with the length of the text. It finds the value
again but for what a JSON text does not tell; of a plain value nothing is lost. -/

open Outcome

namespace Json

/-! ## Space -/

theorem skipSpace_of_space {space text : List Point}
    (blank : ∀ letter ∈ space, isSpace letter = true) :
    skipSpace (space ++ text) = skipSpace text :=
  List.dropWhile_append_of_pos blank

theorem skipSpace_cons {first : Point} (text : List Point) (solid : isSpace first = false) :
    skipSpace (first :: text) = first :: text := by
  simp [skipSpace, solid]

namespace Layout

theorem skipSpace_newLine (layout : Layout) (level : Nat) (text : List Point) :
    skipSpace (layout.newLine level ++ text) = skipSpace text := by
  apply skipSpace_of_space
  rw [newLine]
  cases layout.indent with
  | none => simp
  | some width =>
      refine List.forall_mem_cons.mpr ⟨by decide, fun letter member => ?_⟩
      rw [List.eq_of_mem_replicate member]
      decide

theorem between_eq (layout : Layout) (level : Nat) :
    ∃ space, layout.between level = .char ',' :: space ∧
      ∀ text, skipSpace (space ++ text) = skipSpace text := by
  cases indent : layout.indent with
  | none => exact ⟨[' '], by simp [between, indent], fun text => rfl⟩
  | some width =>
      refine ⟨layout.newLine level, by simp [between, newLine, indent], fun text => ?_⟩
      exact layout.skipSpace_newLine level text

theorem rows_of_ne_nil {layout : Layout} {level : Nat} {right : Point} {row : List Point}
    {others : List (List Point)} (more : others ≠ []) :
    layout.rows level right (row :: others) =
      row ++ (layout.between (level + 1) ++ layout.rows level right others) := by
  cases others with
  | nil => exact absurd rfl more
  | cons next others => rfl

end Layout

/-! ## First characters -/

/-- The character can begin a value: it is neither space nor the end of a collection. -/
structure Opens (first : Point) : Prop where
  solid : isSpace first = false
  bracket : first ≠ ']'
  mark : first ≠ '\ufeff'

theorem opens_of_isDigit {first : Point} (digit : first.isDigit = true) : Opens first := by
  refine ⟨?_, ?_, ?_⟩
  · simp only [isSpace, Bool.or_eq_false_iff, decide_eq_false_iff_not]
    refine ⟨⟨⟨?_, ?_⟩, ?_⟩, ?_⟩ <;> (rintro rfl; revert digit; decide)
  · rintro rfl
    revert digit
    decide
  · rintro rfl
    revert digit
    decide

theorem opens_bracket (layout : Layout) (level : Nat) {left : Point} (right : Point)
    (rows : List (List Point)) (opens : Opens left) :
    ∃ first others, layout.bracket level left right rows = first :: others ∧ Opens first := by
  cases rows with
  | nil => exact ⟨left, _, rfl, opens⟩
  | cons row rows => exact ⟨left, _, rfl, opens⟩

/-- The character can begin a value that is neither a string nor a collection. -/
structure OpensScalar (first : Point) : Prop extends Opens first where
  quote : first ≠ '"'
  left : first ≠ '['
  brace : first ≠ '\x7b'

theorem opensScalar_of_isDigit {first : Point} (digit : first.isDigit = true) :
    OpensScalar first := by
  refine ⟨opens_of_isDigit digit, ?_, ?_, ?_⟩ <;> (rintro rfl; cases digit)

theorem opensScalar_minus : OpensScalar '-' :=
  ⟨⟨by decide, by decide, by decide⟩, by decide, by decide, by decide⟩

/-! ## What follows a value -/

theorem ends_nil : Ends [] := by simp [Ends]

theorem ends_cons {next : Point} {rest : List Point}
    (other : next.isDigit = false ∧ next ≠ '.' ∧ next ≠ 'e' ∧ next ≠ 'E') :
    Ends (next :: rest) := by
  intro first same
  rcases Option.some.inj same with rfl
  exact other

theorem ends_newLine (layout : Layout) (level : Nat) {right : Point} (rest : List Point)
    (ends : Ends (right :: rest)) : Ends (layout.newLine level ++ right :: rest) := by
  rw [Layout.newLine]
  cases layout.indent with
  | none => exact ends
  | some width =>
      intro next first
      rcases Option.some.inj first with rfl
      decide

theorem ends_between (layout : Layout) (level : Nat) (rest : List Point) :
    Ends (layout.between level ++ rest) := by
  intro next first
  rcases Option.some.inj first with rfl
  decide

/-! ## Scalars -/

theorem readWord_append (word : Text) (value : Value) (rest : List Point) :
    readWord word value (word.toList ++ rest) = .ok (value, rest) := by
  have front : word.toList.isPrefixOf (word.toList ++ rest) = true := by
    rw [List.isPrefixOf_iff_prefix]
    exact List.prefix_append _ _
  rw [readWord, if_pos front, ← Text.length_toList, List.drop_left]

theorem readScalar_null (rest : List Point) :
    readScalar ((Text.ofString "null").toList ++ rest) = .ok (.null, rest) :=
  readWord_append "null" .null rest

theorem readScalar_bool (flag : Bool) (rest : List Point) :
    readScalar ((if flag then "true" else "false" : Text).toList ++ rest) =
      .ok (.bool flag, rest) := by
  cases flag with
  | true => exact readWord_append "true" (.bool true) rest
  | false => exact readWord_append "false" (.bool false) rest

theorem exists_opening_null :
    ∃ first others, (Text.ofString "null").toList = first :: others ∧ OpensScalar first :=
  ⟨'n', _, rfl, ⟨by decide, by decide, by decide⟩, by decide, by decide, by decide⟩

theorem exists_opening_bool (flag : Bool) : ∃ first others,
    (if flag then "true" else "false" : Text).toList = first :: others ∧ OpensScalar first := by
  cases flag with
  | true => exact ⟨'t', _, rfl, ⟨by decide, by decide, by decide⟩, by decide, by decide, by decide⟩
  | false => exact ⟨'f', _, rfl, ⟨by decide, by decide, by decide⟩, by decide, by decide, by decide⟩

theorem exists_readScalar_render (number : Binary64) :
    ∃ value first others, (Text.ofString (numberFormat.render number)).toList = first :: others ∧
      OpensScalar first ∧ ∀ rest, Ends rest →
        readScalar ((Text.ofString (numberFormat.render number)).toList ++ rest) =
          .ok (value, rest) := by
  rcases numberFormat.render_cases number with
    undefined | ⟨negative, infinite⟩ | ⟨negative, text, fractional, spelled⟩
  · rw [undefined]
    exact ⟨_, 'N', _, rfl, ⟨⟨by decide, by decide, by decide⟩, by decide, by decide, by decide⟩,
      fun rest _ => readWord_append "NaN" (.float .nan) rest⟩
  · rw [infinite]
    cases negative with
    | true =>
        exact ⟨_, '-', _, rfl, opensScalar_minus,
          fun rest _ => readWord_append "-Infinity" (.float (.infinity true)) rest⟩
    | false =>
        exact ⟨_, 'I', _, rfl, ⟨⟨by decide, by decide, by decide⟩, by decide, by decide, by decide⟩,
          fun rest _ => readWord_append "Infinity" (.float (.infinity false)) rest⟩
  · rcases fractional.begins with ⟨first, others, begins, digit⟩
    rcases fractional.read negative with ⟨found, read⟩
    rw [Text.toList_ofString, spelled]
    cases negative with
    | true =>
        refine ⟨.float found, '-', text.map .char, rfl, opensScalar_minus, fun rest ends => ?_⟩
        rw [if_pos rfl, List.map_cons, begins, List.map_cons, List.cons_append, List.cons_append,
          @readScalar_minus_digit first digit, ← List.cons_append, ← List.map_cons, ← begins,
          read _ rest ends]
    | false =>
        refine ⟨.float found, first, others.map .char, by rw [begins]; rfl,
          opensScalar_of_isDigit digit, fun rest ends => ?_⟩
        rw [if_neg Bool.false_ne_true, begins, List.map_cons, List.cons_append,
          @readScalar_digit first digit, ← List.cons_append, ← List.map_cons, ← begins,
          read _ rest ends]

theorem readValue_scalar {levels fuel : Nat} {text rest : List Point} {value : Value}
    (read : readScalar (text ++ rest) = .ok (value, rest)) (enough : 2 * text.length ≤ fuel)
    (begins : ∃ first others, text = first :: others ∧ OpensScalar first) :
    readValue levels fuel (text ++ rest) = .ok (value, rest) := by
  rcases begins with ⟨first, others, rfl, opens⟩
  have quote := opens.quote
  have left := opens.left
  have brace := opens.brace
  rw [List.length_cons] at enough
  cases fuel with
  | zero => omega
  | succ fuel =>
      rw [← read, List.cons_append, readValue]
      all_goals simp_all

theorem readValue_text {levels fuel : Nat} {escapesUnicode : Bool} {content : Text}
    (encodable : escapesUnicode = true → content.isEncodable = true) (rest : List Point)
    (enough : 2 * (writeText escapesUnicode content).length ≤ fuel) :
    readValue levels fuel (writeText escapesUnicode content ++ rest) =
      .ok (.text content, rest) := by
  rw [writeText, List.length_cons] at enough
  cases fuel with
  | zero => omega
  | succ fuel =>
      simp [writeText, readValue, readText_written encodable, bind, Except.bind, pure, Except.pure]

/-! ## Collections -/

theorem exists_opening_rows {layout : Layout} {level : Nat} {right first : Point}
    {row text : List Point} {others : List (List Point)} (begins : row = first :: text) :
    ∃ text, layout.rows level right (row :: others) = first :: text := by
  cases others with
  | nil => exact ⟨_, by rw [Layout.rows, begins, List.cons_append]⟩
  | cons next others => exact ⟨_, by rw [Layout.rows, begins, List.cons_append]⟩

theorem readValue_filled_list {levels fuel : Nat} {first : Point} {text others : List Point}
    (begins : skipSpace text = first :: others) (filled : first ≠ ']') :
    readValue (levels + 1) (fuel + 1) (.char '[' :: text) =
      (readItems levels fuel (skipSpace text)).map fun (items, rest) => (.list items, rest) := by
  simp only [readValue, begins]
  split
  · simp_all
  · cases readItems levels fuel (first :: others) <;> rfl

theorem rows_split (layout : Layout) (level : Nat) {right : Point} (row rest : List Point)
    {others : List (List Point)} (solid : isSpace right = false) (ends : Ends (right :: rest))
    (begins : others ≠ [] →
      ∃ next text, layout.rows level right others = next :: text ∧ isSpace next = false) :
    ∃ after, layout.rows level right (row :: others) ++ rest = row ++ after ∧ Ends after ∧
      ((others = [] ∧ skipSpace after = right :: rest) ∨
        (others ≠ [] ∧ ∃ space, skipSpace after = .char ',' :: space ∧
          skipSpace space = layout.rows level right others ++ rest)) := by
  by_cases alone : others = []
  · refine ⟨layout.newLine level ++ right :: rest, ?_, ends_newLine layout level rest ends,
      .inl ⟨alone, ?_⟩⟩
    · simp [alone, Layout.rows]
    · rw [layout.skipSpace_newLine, skipSpace_cons _ solid]
  · rcases layout.between_eq (level + 1) with ⟨space, between, blank⟩
    rcases begins alone with ⟨next, text, opening, open_solid⟩
    refine ⟨layout.between (level + 1) ++ (layout.rows level right others ++ rest), ?_,
      ends_between layout (level + 1) _,
      .inr ⟨alone, space ++ (layout.rows level right others ++ rest), ?_, ?_⟩⟩
    · simp [Layout.rows_of_ne_nil alone]
    · rw [between, List.cons_append, skipSpace_cons _ (by decide)]
    · rw [blank, opening, List.cons_append, skipSpace_cons _ open_solid]

theorem readItems_rows {layout : Layout} {level levels fuel : Nat} {row rest : List Point}
    {others : List (List Point)} {item : Value} {items : List Value}
    (first : ∀ after, Ends after → readValue levels fuel (row ++ after) = .ok (item, after))
    (last : others = [] → items = [])
    (begins : others ≠ [] →
      ∃ next text, layout.rows level ']' others = next :: text ∧ isSpace next = false)
    (continued : others ≠ [] →
      readItems levels fuel (layout.rows level ']' others ++ rest) = .ok (items, rest)) :
    readItems levels (fuel + 1) (layout.rows level ']' (row :: others) ++ rest) =
      .ok (item :: items, rest) := by
  rcases rows_split layout level row rest (by decide) (ends_cons (by decide)) begins with
    ⟨after, split, ends, ⟨alone, closed⟩ | ⟨more, space, separated, resumed⟩⟩
  · rw [split, readItems, first after ends, ok_bind]
    simp only [closed, last alone]
    rfl
  · rw [split, readItems, first after ends, ok_bind]
    simp only [separated, resumed, continued more]
    rfl

theorem readValue_rows {layout : Layout} {level levels fuel : Nat} {rest : List Point}
    {rows : List (List Point)} {items : List Value} (none : rows = [] → items = [])
    (begins : rows ≠ [] →
      ∃ first text, layout.rows level ']' rows = first :: text ∧ Opens first)
    (read : rows ≠ [] →
      readItems levels fuel (layout.rows level ']' rows ++ rest) = .ok (items, rest)) :
    readValue (levels + 1) (fuel + 1) (layout.bracket level '[' ']' rows ++ rest) =
      .ok (.list items, rest) := by
  cases rows with
  | nil =>
      have closed : skipSpace (.char ']' :: rest) = .char ']' :: rest :=
        skipSpace_cons _ (by decide)
      rw [none rfl]
      simp [Layout.bracket, readValue, closed]
  | cons row others =>
      rcases begins (by simp) with ⟨first, text, opening, opens⟩
      have start : skipSpace (layout.newLine (level + 1) ++
          (layout.rows level ']' (row :: others) ++ rest)) = first :: (text ++ rest) := by
        rw [layout.skipSpace_newLine, opening, List.cons_append, skipSpace_cons _ opens.solid]
      have inner := read (by simp)
      rw [opening, List.cons_append] at inner
      rw [Layout.bracket, List.cons_append, List.append_assoc,
        readValue_filled_list start opens.bracket, start, inner]
      rfl

/-! ## Entries -/

theorem insertEntry_of_fresh {key : Text} {entries : List (Value × Value)} (value : Value)
    (texts : ∀ entry ∈ entries, entry.1.text?.isSome = true)
    (fresh : .text key ∉ entries.map Prod.fst) :
    Value.insertEntry (.text key) value entries = entries ++ [(.text key, value)] := by
  induction entries with
  | nil => rfl
  | cons entry entries induction =>
      rcases entry with ⟨name, given⟩
      rw [List.forall_mem_cons] at texts
      rw [List.map_cons, List.mem_cons, not_or] at fresh
      cases name with
      | text content =>
          have other : Value.same (.text content) (.text key) = false := by
            simpa [Value.same_text] using Ne.symm fresh.1
          rw [Value.insertEntry, other, induction texts.2 fresh.2]
          rfl
      | _ => cases texts.1

theorem readEntries_step {levels fuel : Nat} {escapesUnicode : Bool} {key : Text} {first : Point}
    {more after : List Point} {value : Value} (entries : List (Value × Value))
    (encodable : escapesUnicode = true → key.isEncodable = true) (solid : isSpace first = false)
    (valued : readValue levels fuel (first :: more) = .ok (value, after)) :
    readEntries levels (fuel + 1) entries
        (writeText escapesUnicode key ++ .char ':' :: .char ' ' :: first :: more) =
      match skipSpace after with
      | .char '\x7d' :: rest => .ok (Value.insertEntry (.text key) value entries, rest)
      | .char ',' :: rest =>
          readEntries levels fuel (Value.insertEntry (.text key) value entries) (skipSpace rest)
      | rest => .error (.comma, rest) := by
  have colon : skipSpace (.char ':' :: .char ' ' :: first :: more) =
      .char ':' :: .char ' ' :: first :: more := skipSpace_cons _ (by decide)
  have resumed : skipSpace (.char ' ' :: first :: more) = first :: more := skipSpace_cons _ solid
  simp only [writeText, List.cons_append, List.append_assoc, List.nil_append, readEntries,
    readText_written encodable, ok_bind, colon, resumed, valued, Text.ofList_toList]
  rfl

theorem readEntries_rows {layout : Layout} {level levels fuel : Nat} {key : Text} {first : Point}
    {more rest : List Point} {others : List (List Point)} {value : Value}
    {entries result : List (Value × Value)}
    (encodable : layout.escapesUnicode = true → key.isEncodable = true)
    (solid : isSpace first = false)
    (valued : ∀ after, Ends after →
      readValue levels fuel (first :: more ++ after) = .ok (value, after))
    (last : others = [] → Value.insertEntry (.text key) value entries = result)
    (begins : others ≠ [] →
      ∃ next text, layout.rows level '\x7d' others = next :: text ∧ isSpace next = false)
    (continued : others ≠ [] →
      readEntries levels fuel (Value.insertEntry (.text key) value entries)
        (layout.rows level '\x7d' others ++ rest) = .ok (result, rest)) :
    readEntries levels (fuel + 1) entries (layout.rows level '\x7d'
      ((writeText layout.escapesUnicode key ++
        .char ':' :: .char ' ' :: first :: more) :: others) ++ rest) = .ok (result, rest) := by
  rcases rows_split layout level
    (writeText layout.escapesUnicode key ++ .char ':' :: .char ' ' :: first :: more) rest
      (by decide) (ends_cons (by decide)) begins with
    ⟨after, split, ends, ⟨alone, closed⟩ | ⟨more, space, separated, resumed⟩⟩
  · have step := readEntries_step entries encodable solid (valued after ends)
    rw [closed] at step
    rw [split, List.append_assoc, ← last alone]
    exact step
  · have step := readEntries_step entries encodable solid (valued after ends)
    rw [separated] at step
    rw [split, List.append_assoc]
    simp only [resumed, continued more] at step
    exact step

theorem readValue_filled_object {levels fuel : Nat} {first : Point} {text others : List Point}
    (begins : skipSpace text = first :: others) (filled : first ≠ '\x7d') :
    readValue (levels + 1) (fuel + 1) (.char '\x7b' :: text) =
      (readEntries levels fuel [] (skipSpace text)).map fun (entries, rest) =>
        (.map entries, rest) := by
  simp only [readValue, begins]
  split
  · simp_all
  · cases readEntries levels fuel [] (first :: others) <;> rfl

theorem readValue_entry_rows {layout : Layout} {level levels fuel : Nat} {rest : List Point}
    {rows : List (List Point)} {entries : List (Value × Value)} (none : rows = [] → entries = [])
    (begins : rows ≠ [] → ∃ text, layout.rows level '\x7d' rows = .char '"' :: text)
    (read : rows ≠ [] →
      readEntries levels fuel [] (layout.rows level '\x7d' rows ++ rest) = .ok (entries, rest)) :
    readValue (levels + 1) (fuel + 1) (layout.bracket level '\x7b' '\x7d' rows ++ rest) =
      .ok (.map entries, rest) := by
  cases rows with
  | nil =>
      have closed : skipSpace (.char '\x7d' :: rest) = .char '\x7d' :: rest :=
        skipSpace_cons _ (by decide)
      rw [none rfl]
      simp [Layout.bracket, readValue, closed]
  | cons row others =>
      rcases begins (by simp) with ⟨text, opening⟩
      have start : skipSpace (layout.newLine (level + 1) ++
          (layout.rows level '\x7d' (row :: others) ++ rest)) = .char '"' :: (text ++ rest) := by
        rw [layout.skipSpace_newLine, opening, List.cons_append, skipSpace_cons _ (by decide)]
      have inner := read (by simp)
      rw [opening, List.cons_append] at inner
      rw [Layout.bracket, List.cons_append, List.append_assoc,
        readValue_filled_object start (by decide), start, inner]
      rfl

/-! ## What is read back -/

def keyName (key : Value) : Text := (keyText key).toOption.getD ""

def reread (number : Binary64) : Value :=
  let spelled := (Text.ofString (numberFormat.render number)).toList
  ((readScalar spelled).toOption.map Prod.fst).getD .null

def enter (before : List (Value × Value)) (found : List (Text × Value)) : List (Value × Value) :=
  found.foldl (fun entries entry => Value.insertEntry (.text entry.1) entry.2 entries) before

mutual

/-- What is read back for a value that was written. A text does not tell tuples from lists and keys
from their names, and for each name it keeps the last value. -/
def echo : Value → Value
  | .list items | .tuple items => .list (echoAll items)
  | .map entries => .map (enter [] (echoEntries entries))
  | .cyclic _ content => echo content
  | .float number => reread number
  | value => value
termination_by structural value => value

def echoAll : List Value → List Value
  | [] => []
  | value :: values => echo value :: echoAll values
termination_by structural values => values

def echoEntries : List (Value × Value) → List (Text × Value)
  | [] => []
  | (key, value) :: entries => (keyName key, echo value) :: echoEntries entries
termination_by structural entries => entries

end

/-! ## Values -/

/-- The text is read as a value on some levels of nesting, whatever follows that ends it. -/
structure Legible (levels : Nat) (text : List Point) (value : Value) : Prop where
  opens : ∃ first others, text = first :: others ∧ Opens first
  read : ∀ fuel rest, 2 * text.length ≤ fuel → Ends rest →
    readValue levels fuel (text ++ rest) = .ok (value, rest)

def LegibleEntry (escapesUnicode : Bool) (levels : Nat) (row : List Point)
    (entry : Text × Value) : Prop :=
  (escapesUnicode = true → entry.1.isEncodable = true) ∧
    ∃ text, row = writeText escapesUnicode entry.1 ++ .char ':' :: .char ' ' :: text ∧
      Legible levels text entry.2

theorem legible_scalar {levels : Nat} {text : List Point} {value : Value}
    (begins : ∃ first others, text = first :: others ∧ OpensScalar first)
    (read : ∀ rest, Ends rest → readScalar (text ++ rest) = .ok (value, rest)) :
    Legible levels text value := by
  refine ⟨?_, fun fuel rest enough ends => readValue_scalar (read rest ends) enough begins⟩
  rcases begins with ⟨first, others, same, opens⟩
  exact ⟨first, others, same, opens.toOpens⟩

theorem legible_text {escapesUnicode : Bool} (levels : Nat) {content : Text}
    (encodable : escapesUnicode = true → content.isEncodable = true) :
    Legible levels (writeText escapesUnicode content) (.text content) :=
  ⟨⟨'"', _, rfl, by decide, by decide, by decide⟩,
    fun _ rest enough _ => readValue_text encodable rest enough⟩

theorem legible_float (levels : Nat) (number : Binary64) :
    Legible levels (Text.ofString (numberFormat.render number)).toList (reread number) := by
  rcases exists_readScalar_render number with ⟨value, first, others, begins, opens, read⟩
  have alone := read [] ends_nil
  rw [List.append_nil] at alone
  have same : reread number = value := by
    rw [reread, alone]
    rfl
  rw [same]
  exact legible_scalar ⟨first, others, begins, opens⟩ read

theorem length_rows_lt (layout : Layout) (level : Nat) (left right : Point)
    {rows : List (List Point)} (filled : rows ≠ []) :
    (layout.rows level right rows).length < (layout.bracket level left right rows).length := by
  cases rows with
  | nil => exact absurd rfl filled
  | cons row others =>
      rw [Layout.bracket, List.length_cons, List.length_append]
      omega

theorem length_bracket_pos (layout : Layout) (level : Nat) (left right : Point)
    (rows : List (List Point)) : 0 < (layout.bracket level left right rows).length := by
  cases rows <;> simp [Layout.bracket]

theorem length_rows_cons (layout : Layout) (level : Nat) (right : Point) (row : List Point)
    (others : List (List Point)) :
    row.length + (layout.rows level right others).length <
      (layout.rows level right (row :: others)).length := by
  cases others with
  | nil => simp [Layout.rows]
  | cons next others =>
      rw [Layout.rows, List.length_append, List.length_append, Layout.between, List.length_cons]
      omega

section Rows

variable {levels : Nat} {rows : List (List Point)}

theorem opens_rows {items : List Value} (layout : Layout) (level : Nat) (right : Point)
    (legible : List.Forall₂ (Legible levels) rows items) (filled : rows ≠ []) :
    ∃ first text, layout.rows level right rows = first :: text ∧ Opens first := by
  cases legible with
  | nil => exact absurd rfl filled
  | cons first others =>
      rcases first.opens with ⟨letter, rest, begins, opens⟩
      rcases exists_opening_rows begins with ⟨text, same⟩
      exact ⟨letter, text, same, opens⟩

theorem opens_entry_rows {found : List (Text × Value)} {escapesUnicode : Bool} (layout : Layout)
    (level : Nat) (legible : List.Forall₂ (LegibleEntry escapesUnicode levels) rows found)
    (filled : rows ≠ []) : ∃ text, layout.rows level '\x7d' rows = .char '"' :: text := by
  cases legible with
  | nil => exact absurd rfl filled
  | cons first others =>
      rcases first with ⟨-, text, rfl, -⟩
      exact exists_opening_rows rfl

theorem readItems_of_legible {items : List Value} (layout : Layout) (level : Nat)
    (legible : List.Forall₂ (Legible levels) rows items) (filled : rows ≠ []) (fuel : Nat)
    (rest : List Point) (enough : 2 * (layout.rows level ']' rows).length ≤ fuel + 1) :
    readItems levels fuel (layout.rows level ']' rows ++ rest) = .ok (items, rest) := by
  induction legible generalizing fuel with
  | nil => exact absurd rfl filled
  | @cons row item rows items first others induction =>
      have lengths := length_rows_cons layout level ']' row rows
      rcases Nat.exists_eq_add_one.mpr (show 0 < fuel by omega) with ⟨fuel, rfl⟩
      apply readItems_rows
      · exact fun after ends => first.read fuel after (by omega) ends
      · rintro rfl
        cases others
        rfl
      · intro more
        rcases opens_rows layout level ']' others more with ⟨next, text, begins, opens⟩
        exact ⟨next, text, begins, opens.solid⟩
      · exact fun more => induction more fuel (by omega)

theorem legible_list {items : List Value} (layout : Layout) (level : Nat)
    (legible : List.Forall₂ (Legible levels) rows items) :
    Legible (levels + 1) (layout.bracket level '[' ']' rows) (.list items) := by
  refine ⟨opens_bracket layout level ']' rows ⟨by decide, by decide, by decide⟩, ?_⟩
  intro fuel rest enough _
  have filled := length_bracket_pos layout level '[' ']' rows
  rcases Nat.exists_eq_add_one.mpr (show 0 < fuel by omega) with ⟨fuel, rfl⟩
  apply readValue_rows
  · rintro rfl
    cases legible
    rfl
  · exact opens_rows layout level ']' legible
  · intro more
    have shorter := length_rows_lt layout level '[' ']' more
    exact readItems_of_legible layout level legible more fuel rest (by omega)

theorem readEntries_of_legible {found : List (Text × Value)} (layout : Layout) (level : Nat)
    (legible : List.Forall₂ (LegibleEntry layout.escapesUnicode levels) rows found)
    (filled : rows ≠ []) (before : List (Value × Value)) (fuel : Nat) (rest : List Point)
    (enough : 2 * (layout.rows level '\x7d' rows).length ≤ fuel + 1) :
    readEntries levels fuel before (layout.rows level '\x7d' rows ++ rest) =
      .ok (enter before found, rest) := by
  induction legible generalizing before fuel with
  | nil => exact absurd rfl filled
  | @cons row entry rows found first others induction =>
      rcases entry with ⟨name, value⟩
      rcases first with ⟨encodable, text, rfl, legible⟩
      rcases legible.opens with ⟨letter, more, rfl, opens⟩
      have lengths := length_rows_cons layout level '\x7d'
        (writeText layout.escapesUnicode name ++ .char ':' :: .char ' ' :: letter :: more) rows
      rw [List.length_append, List.length_cons, List.length_cons] at lengths
      dsimp only at enough ⊢
      rcases Nat.exists_eq_add_one.mpr (show 0 < fuel by omega) with ⟨fuel, rfl⟩
      apply readEntries_rows encodable opens.solid
      · exact fun after ends => legible.read fuel after (by omega) ends
      · rintro rfl
        cases others
        rfl
      · intro more
        rcases opens_entry_rows layout level others more with ⟨text, begins⟩
        exact ⟨'"', text, begins, by decide⟩
      · exact fun more => induction more _ fuel (by omega)

theorem legible_map {found : List (Text × Value)} (layout : Layout) (level : Nat)
    (legible : List.Forall₂ (LegibleEntry layout.escapesUnicode levels) rows found) :
    Legible (levels + 1) (layout.bracket level '\x7b' '\x7d' rows) (.map (enter [] found)) := by
  refine ⟨opens_bracket layout level '\x7d' rows ⟨by decide, by decide, by decide⟩, ?_⟩
  intro fuel rest enough _
  have filled := length_bracket_pos layout level '\x7b' '\x7d' rows
  rcases Nat.exists_eq_add_one.mpr (show 0 < fuel by omega) with ⟨fuel, rfl⟩
  apply readValue_entry_rows
  · rintro rfl
    cases legible
    rfl
  · exact opens_entry_rows layout level legible
  · intro more
    have shorter := length_rows_lt layout level '\x7b' '\x7d' more
    exact readEntries_of_legible layout level legible more [] fuel rest (by omega)

end Rows

/-! ## What was written -/

section Written

variable {layout : Layout}

mutual

theorem exists_legible_of_writeAt (unsorted : layout.sortsKeys = false) (level : Nat) :
    ∀ (value : Value), (layout.escapesUnicode = true → value.isEncodable = true) →
      ∀ written : Written, writeAt layout level value = .ok written →
        ∃ text, written = Layout.ahead text ∧ Legible (maxNesting - level) text (echo value)
  | .null, _ => fun _ succeeded =>
      ⟨_, (Except.ok.inj succeeded).symm,
        legible_scalar exists_opening_null fun rest _ => readScalar_null rest⟩
  | .bool flag, _ => fun _ succeeded =>
      ⟨_, (Except.ok.inj succeeded).symm,
        legible_scalar (exists_opening_bool flag) fun rest _ => readScalar_bool flag rest⟩
  | .int number, _ => by
      intro written succeeded
      have spelled := writeAt_int_eq_ok succeeded
      refine ⟨_, spelled.1, legible_scalar ?_ fun rest ends => readScalar_toString spelled.2 ends⟩
      rcases exists_head_toString number with ⟨first, others, begins, digit | rfl⟩
      · exact ⟨first, others, begins, opensScalar_of_isDigit digit⟩
      · exact ⟨'-', others, begins, opensScalar_minus⟩
  | .float number, _ => fun _ succeeded =>
      ⟨_, (Except.ok.inj succeeded).symm, legible_float _ number⟩
  | .text content, encodable => fun _ succeeded =>
      ⟨_, (Except.ok.inj succeeded).symm, legible_text _ encodable⟩
  | .list items, encodable | .tuple items, encodable => by
      intro written succeeded
      rw [writeAt, map_eq_ok] at succeeded
      rcases succeeded with ⟨rows, inner, rfl⟩
      rcases inside_eq_ok_iff.mp inner with ⟨shallow, all⟩
      rcases exists_legible_of_writeAll unsorted (level + 1) items encodable rows all with
        ⟨texts, rfl, legible⟩
      rw [Layout.enclose_ahead, show maxNesting - level = maxNesting - (level + 1) + 1 by omega]
      exact ⟨_, rfl, legible_list layout level legible⟩
  | .map entries, encodable => by
      intro written succeeded
      rcases (writeAt_map_eq_ok_iff unsorted).mp succeeded with ⟨rows, shallow, joined, rfl⟩
      rcases exists_legible_of_writeEntries unsorted (level + 1) entries encodable rows joined with
        ⟨texts, rfl, legible⟩
      rw [Layout.enclose_ahead, show maxNesting - level = maxNesting - (level + 1) + 1 by omega]
      exact ⟨_, rfl, legible_map layout level legible⟩
  | .cyclic _ content, encodable => exists_legible_of_writeAt unsorted level content encodable
  | .date _, _ | .moment _, _ | .bytes _, _ | .set _, _ | .again _, _ => by
      intro written succeeded
      cases succeeded

theorem exists_legible_of_writeAll (unsorted : layout.sortsKeys = false) (level : Nat) :
    ∀ (values : List Value),
      (layout.escapesUnicode = true → Value.areEncodable values = true) →
        ∀ rows : List Written, writeAll layout level values = .ok rows →
          ∃ texts, rows = texts.map Layout.ahead ∧
            List.Forall₂ (Legible (maxNesting - level)) texts (echoAll values)
  | [], _ => fun _ succeeded => ⟨[], (Except.ok.inj succeeded).symm, .nil⟩
  | value :: values, encodable => by
      intro rows succeeded
      have parts := fun escapes => Bool.and_eq_true_iff.mp (encodable escapes)
      rcases bind_eq_ok.mp succeeded with ⟨first, written, succeeded⟩
      rcases bind_eq_ok.mp succeeded with ⟨others, continued, succeeded⟩
      rcases exists_legible_of_writeAt unsorted level value (fun escapes => (parts escapes).1)
        first written with
        ⟨text, rfl, legible⟩
      rcases exists_legible_of_writeAll unsorted level values (fun escapes => (parts escapes).2)
        others continued with
        ⟨texts, rfl, all⟩
      exact ⟨text :: texts, (pure_eq_ok.mp succeeded).symm, .cons legible all⟩

theorem exists_legible_of_writeEntries (unsorted : layout.sortsKeys = false) (level : Nat) :
    ∀ (entries : List (Value × Value)),
      (layout.escapesUnicode = true → Value.entriesAreEncodable entries = true) →
        ∀ rows : List Written,
          (writeEntries layout level entries).mapM (joinEntry layout) = .ok rows →
            ∃ texts, rows = texts.map Layout.ahead ∧
              List.Forall₂ (LegibleEntry layout.escapesUnicode (maxNesting - level)) texts
                (echoEntries entries)
  | [], _ => fun _ succeeded => ⟨[], (Except.ok.inj succeeded).symm, .nil⟩
  | (key, value) :: entries, encodable => by
      intro rows succeeded
      have parts := fun escapes => Bool.and_eq_true_iff.mp (encodable escapes)
      have entry := fun escapes => Bool.and_eq_true_iff.mp (parts escapes).1
      rcases joined_cons_eq_ok succeeded with
        ⟨name, inner, others, named, written, continued, rfl⟩
      rcases exists_legible_of_writeAt unsorted level value (fun escapes => (entry escapes).2)
        inner written with ⟨text, rfl, legible⟩
      rcases exists_legible_of_writeEntries unsorted level entries
        (fun escapes => (parts escapes).2) others continued with ⟨texts, rfl, all⟩
      have same : keyName key = name := by
        rw [keyName, named]
        rfl
      have spelled : layout.escapesUnicode = true → (keyName key).isEncodable = true := by
        intro escapes
        rw [same, isEncodable_of_keyText named, (entry escapes).1]
      refine ⟨_ :: texts, ?_, .cons ⟨spelled, text, rfl, legible⟩ all⟩
      rw [same, Layout.entry_ahead, List.map_cons]

end

theorem read_echo (unsorted : layout.sortsKeys = false) {value : Value} {text : Text}
    (encodable : layout.escapesUnicode = true → value.isEncodable = true)
    (written : write layout value = .ok text) : read text = .ok (echo value) := by
  rcases map_eq_ok.mp written with ⟨spelled, succeeded, rfl⟩
  rcases exists_legible_of_writeAt unsorted 0 value encodable spelled succeeded with
    ⟨letters, rfl, legible⟩
  have value_read := legible.read (2 * letters.length + 2) [] (by omega) ends_nil
  rcases legible.opens with ⟨first, others, rfl, opens⟩
  rw [Layout.ahead, List.append_nil, read, Text.toList_ofList]
  rw [List.append_nil, Nat.sub_zero] at value_read
  have whole : readAll (first :: others) = .ok (echo value) := by
    rw [readAll, if_neg (by simpa using opens.mark), skipSpace_cons _ opens.solid, value_read]
    rfl
  simp only [whole]
  rfl

end Written

/-! ## Distinct keys -/

theorem echoAll_eq_map (values : List Value) : echoAll values = values.map echo := by
  induction values with
  | nil => rfl
  | cons value values induction => rw [echoAll, induction, List.map_cons]

theorem echoEntries_eq_map (entries : List (Value × Value)) :
    echoEntries entries = entries.map fun entry => (keyName entry.1, echo entry.2) := by
  induction entries with
  | nil => rfl
  | cons entry entries induction => rw [echoEntries, induction, List.map_cons]

theorem enter_of_fresh {before entries : List (Value × Value)}
    (texts : ∀ entry ∈ before ++ entries, entry.1.text?.isSome = true)
    (distinct : ((before ++ entries).map Prod.fst).Nodup) :
    enter before (entries.map fun entry => (keyName entry.1, entry.2)) = before ++ entries := by
  induction entries generalizing before with
  | nil => simp [enter]
  | cons entry entries induction =>
      rcases entry with ⟨key, value⟩
      rcases Value.exists_of_text? (texts (key, value) (by simp)) with ⟨name, rfl⟩
      have former : ∀ entry ∈ before, entry.1.text?.isSome = true := fun entry member =>
        texts entry (List.mem_append_left _ member)
      have fresh : .text name ∉ before.map Prod.fst := by
        rw [List.map_append, List.map_cons, List.nodup_append] at distinct
        exact fun member => distinct.2.2 _ member _ List.mem_cons_self rfl
      have inserted := insertEntry_of_fresh value former fresh
      rw [List.append_cons] at texts distinct ⊢
      rw [← induction texts distinct, ← inserted]
      rfl

theorem echo_map {entries : List (Value × Value)}
    (texts : ∀ entry ∈ entries, entry.1.text?.isSome = true)
    (distinct : (entries.map Prod.fst).Nodup) :
    echo (.map entries) = .map (entries.map fun entry => (entry.1, echo entry.2)) := by
  have kept : (entries.map fun entry => (entry.1, echo entry.2)).map Prod.fst =
      entries.map Prod.fst := by rw [List.map_map]; rfl
  have entered := @enter_of_fresh [] (entries.map fun entry => (entry.1, echo entry.2))
    (by rw [List.nil_append, List.forall_mem_map]; exact texts)
    (by rw [List.nil_append, kept]; exact distinct)
  rw [List.map_map, List.nil_append] at entered
  rw [echo, echoEntries_eq_map, ← entered]
  rfl

/-! ## Plain values -/

mutual

theorem echo_of_isPlain : ∀ value : Value, value.isPlain = true → echo value = value
  | .null, _ | .bool _, _ | .int _, _ | .text _, _ => rfl
  | .list items, plain => by rw [echo, echoAll_of_arePlain items plain]
  | .map entries, plain => by
      rw [Value.isPlain, Bool.and_eq_true, decide_eq_true_eq] at plain
      have texts := fun entry member => (Value.entriesArePlain_iff.mp plain.2 entry member).1
      rw [echo_map texts plain.1, echo_entries_of_entriesArePlain entries plain.2]
  | .float _, plain | .date _, plain | .moment _, plain | .bytes _, plain | .set _, plain
  | .tuple _, plain | .cyclic _ _, plain | .again _, plain => by simp [Value.isPlain] at plain

theorem echoAll_of_arePlain : ∀ values : List Value, Value.arePlain values = true →
    echoAll values = values
  | [], _ => rfl
  | value :: values, plain => by
      rw [Value.arePlain, Bool.and_eq_true] at plain
      rw [echoAll, echo_of_isPlain value plain.1, echoAll_of_arePlain values plain.2]

theorem echo_entries_of_entriesArePlain : ∀ entries : List (Value × Value),
    Value.entriesArePlain entries = true →
      (entries.map fun entry => (entry.1, echo entry.2)) = entries
  | [], _ => rfl
  | (key, value) :: entries, plain => by
      rw [Value.entriesArePlain, Bool.and_eq_true, Bool.and_eq_true] at plain
      rw [List.map_cons, echo_of_isPlain value plain.1.2,
        echo_entries_of_entriesArePlain entries plain.2]

end

theorem read_of_write {layout : Layout} (unsorted : layout.sortsKeys = false) {value : Value}
    {text : Text} (encodable : layout.escapesUnicode = true → value.isEncodable = true)
    (plain : value.isPlain = true) (written : write layout value = .ok text) :
    read text = .ok value := by
  rw [read_echo unsorted encodable written, echo_of_isPlain value plain]

end Json

end ScreenFlow
