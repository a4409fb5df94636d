import ScreenFlow.Json.Writer
import ScreenFlow.Proofs.Keys
import ScreenFlow.Value.Rendered

namespace ScreenFlow

/-! Which values have a JSON text. A value that could come from a JSON text has one, unless it holds
a number with too many digits or is nested too deeply; writing never refuses a form. -/

/-! ## Sorted lists -/

namespace Sequence

theorem mem_insertSorted {less : α → α → Bool} {element head : α} {elements : List α} :
    element ∈ insertSorted less head elements ↔ element = head ∨ element ∈ elements := by
  induction elements with
  | nil => simp [insertSorted]
  | cons first rest induction =>
      rw [insertSorted]
      split
      · rw [List.mem_cons, induction, List.mem_cons]
        tauto
      · rw [List.mem_cons]

theorem mem_sort {less : α → α → Bool} {element : α} {elements : List α} :
    element ∈ sort less elements ↔ element ∈ elements := by
  induction elements with
  | nil => simp [sort]
  | cons first rest induction =>
      change element ∈ insertSorted less first (sort less rest) ↔ _
      rw [mem_insertSorted, induction, List.mem_cons]

end Sequence

/-! ## Values of JSON texts -/

namespace Value

mutual

/-- Whether a value could come from a JSON text: the keys of its mappings are texts. -/
def isJson : Value → Bool
  | .null | .bool _ | .int _ | .float _ | .text _ => true
  | .list items => areJson items
  | .map entries => entriesAreJson entries
  | _ => false
termination_by structural value => value

def areJson : List Value → Bool
  | [] => true
  | value :: values => isJson value && areJson values
termination_by structural values => values

def entriesAreJson : List (Value × Value) → Bool
  | [] => true
  | (key, value) :: entries => key.text?.isSome && isJson value && entriesAreJson entries
termination_by structural entries => entries

end

mutual

def levels : Value → Nat
  | .list items => levelsOfAll items + 1
  | .map entries => levelsOfEntries entries + 1
  | _ => 0
termination_by structural value => value

def levelsOfAll : List Value → Nat
  | [] => 0
  | value :: values => max (levels value) (levelsOfAll values)
termination_by structural values => values

def levelsOfEntries : List (Value × Value) → Nat
  | [] => 0
  | (_, value) :: entries => max (levels value) (levelsOfEntries entries)
termination_by structural entries => entries

end

theorem areJson_iff {values : List Value} :
    areJson values = true ↔ ∀ value ∈ values, value.isJson = true := by
  induction values with
  | nil => simp [areJson]
  | cons value values induction => simp [areJson, induction]

theorem entriesAreJson_iff {entries : List (Value × Value)} :
    entriesAreJson entries = true ↔
      ∀ entry ∈ entries, entry.1.text?.isSome = true ∧ entry.2.isJson = true := by
  induction entries with
  | nil => simp [entriesAreJson]
  | cons entry entries induction => simp [entriesAreJson, induction, and_assoc]

theorem unroll_of_isJson {value : Value} (json : value.isJson = true) : value.unroll = value := by
  cases value <;> first | rfl | simp [isJson] at json

theorem isJson_entry (key : Text) {entries : List (Value × Value)}
    (json : (Value.map entries).isJson = true) : (entry key entries).isJson = true := by
  rw [entry, lookup?]
  cases found : entries.find? fun entry => entry.1.text? == some key with
  | none => rfl
  | some entry =>
      exact (entriesAreJson_iff.mp json entry (List.mem_of_find?_eq_some found)).2

end Value

/-! ## Writing -/

namespace Outcome

theorem unrejected_render (value : Value) : Unrejected value.render := by
  rw [Value.render]
  cases value.isWritable <;> simp [Unrejected]

theorem succeeds_render_iff {value : Value} : Succeeds value.render ↔ value.isWritable = true := by
  rw [Value.render]
  cases value.isWritable <;> simp [Succeeds]

theorem escapes_render_iff {value : Value} : Escapes value.render ↔ value.isWritable = false := by
  rw [escapes_iff_of_unrejected (unrejected_render value), succeeds_render_iff, Bool.not_eq_true]

theorem intends_render (value : Value) : Intends value.render value.display := by
  rw [Value.render]
  cases value.isWritable with
  | true => exact intends_ok _
  | false => exact .inr ⟨.badValue, rfl, by simp⟩

theorem unrejected_renderInner (value : Value) : Unrejected value.renderInner := by
  rw [Value.renderInner]
  cases value.isWritable <;> simp [Unrejected]

theorem escapes_renderInner_iff {value : Value} :
    Escapes value.renderInner ↔ value.isWritable = false := by
  rw [Value.renderInner]
  cases value.isWritable <;> simp [Escapes]

end Outcome

namespace Json

open Outcome

variable {α : Type}

theorem unrejected_scalarText (value : Value) : Unrejected (scalarText value) := by
  cases value with
  | int number =>
      rw [scalarText]
      split <;> simp [Unrejected]
  | _ => simp [scalarText, Unrejected]

theorem unrejected_keyText (value : Value) : Unrejected (keyText value) := by
  rw [keyText.eq_def]
  split
  · exact unrejected_ok _
  · exact unrejected_scalarText value

theorem succeeds_keyText {value : Value} (named : value.text?.isSome = true) :
    Succeeds (keyText value) := by
  cases value with
  | text content => exact .ok content
  | _ => cases named

theorem mem_of_sortEntries? {entries ordered : List (Value × α)}
    (sorted : sortEntries? entries = some ordered) {entry : Value × α} :
    entry ∈ ordered ↔ entry ∈ entries := by
  rw [sortEntries?] at sorted
  split at sorted
  · rcases Option.some.inj sorted with rfl
    exact Sequence.mem_sort
  · cases sorted

theorem sortEntries?_of_texts {entries : List (Value × α)}
    (texts : ∀ entry ∈ entries, entry.1.text?.isSome = true) :
    ∃ ordered, sortEntries? entries = some ordered := by
  have key : ∀ place ∈ Sequence.indexed entries, ∃ content, place.2.1 = .text content := by
    intro place member
    have inside := texts place.2 (Sequence.snd_mem_of_mem_indexed member)
    cases named : place.2.1 <;> simp [named, Value.text?] at inside ⊢
  have comparable : ((Sequence.indexed entries).all fun left =>
      (Sequence.indexed entries).all fun right =>
        left.1 == right.1 || (keyLess? left.2.1 right.2.1).isSome) = true := by
    rw [List.all_eq_true]
    intro left inLeft
    rw [List.all_eq_true]
    intro right inRight
    rcases key left inLeft with ⟨first, leftKey⟩
    rcases key right inRight with ⟨second, rightKey⟩
    simp [leftKey, rightKey, keyLess?]
  exact ⟨_, if_pos comparable⟩

def arrange (layout : Layout) (entries : List (Value × α)) : Except Fault (List (Value × α)) :=
  if layout.sortsKeys then orFault .wrongKind (sortEntries? entries) else pure entries

def joinEntry (layout : Layout) (entry : Value × Except Fault Written) : Except Fault Written := do
  let name ← keyText entry.1
  let value ← entry.2
  return fun rest => writeText layout.escapesUnicode name ++ Point.char ':' :: ' ' :: value rest

theorem joinEntries_eq (layout : Layout) (entries : List (Value × Except Fault Written)) :
    joinEntries layout entries =
      arrange layout entries >>= fun ordered => ordered.mapM (joinEntry layout) := by
  rw [joinEntries, arrange]
  cases layout.sortsKeys <;> rfl

theorem unrejected_arrange (layout : Layout) (entries : List (Value × α)) :
    Unrejected (arrange layout entries) := by
  rw [arrange]
  split
  · have other : ∀ rejection, Fault.wrongKind ≠ .rejected rejection := by simp
    exact unrejected_orFault other _
  · exact unrejected_ok entries

theorem mem_of_arrange {layout : Layout} {entries ordered : List (Value × α)}
    (arranged : arrange layout entries = .ok ordered) {entry : Value × α} :
    entry ∈ ordered ↔ entry ∈ entries := by
  rw [arrange] at arranged
  split at arranged
  · exact mem_of_sortEntries? (orFault_eq_ok.mp arranged)
  · rw [← pure_eq_ok.mp arranged]

theorem arrange_of_texts (layout : Layout) {entries : List (Value × α)}
    (texts : ∀ entry ∈ entries, entry.1.text?.isSome = true) :
    Succeeds (arrange layout entries) := by
  rw [arrange]
  split
  · rcases sortEntries?_of_texts texts with ⟨ordered, sorted⟩
    exact ⟨ordered, orFault_eq_ok.mpr sorted⟩
  · exact .ok entries

theorem unrejected_joinEntries {layout : Layout} {entries : List (Value × Except Fault Written)}
    (each : ∀ entry ∈ entries, Unrejected entry.2) : Unrejected (joinEntries layout entries) := by
  rw [joinEntries_eq]
  apply unrejected_bind (unrejected_arrange layout entries)
  intro ordered arranged
  apply unrejected_mapM
  intro entry member
  apply unrejected_bind (unrejected_keyText entry.1)
  intro name _
  have among := (mem_of_arrange arranged).mp member
  exact unrejected_bind (each entry among) fun _ _ => unrejected_ok _

theorem joinEntries_succeeds_iff {layout : Layout}
    {entries : List (Value × Except Fault Written)}
    (texts : ∀ entry ∈ entries, entry.1.text?.isSome = true) :
    Succeeds (joinEntries layout entries) ↔ ∀ entry ∈ entries, Succeeds entry.2 := by
  rcases arrange_of_texts layout texts with ⟨ordered, arranged⟩
  have each : Succeeds (joinEntries layout entries) ↔
      ∀ entry ∈ ordered, Succeeds (joinEntry layout entry) := by
    rw [joinEntries_eq, arranged]
    exact mapM_succeeds_iff
  rw [each]
  apply forall_congr'
  intro entry
  rw [mem_of_arrange arranged]
  apply forall_congr'
  intro member
  rcases succeeds_keyText (texts entry member) with ⟨name, named⟩
  rw [joinEntry, named]
  cases entry.2 <;> simp [Succeeds, bind, Except.bind, pure, Except.pure]

theorem unrejected_inside {level : Nat} {written : Except Fault α}
    (unrejected : Unrejected written) : Unrejected (inside level written) := by
  rw [inside]
  split
  · exact unrejected
  · exact unrejected_error (by simp)

mutual

theorem unrejected_writeAt (layout : Layout) (level : Nat) :
    ∀ value : Value, Unrejected (writeAt layout level value)
  | .list items =>
      unrejected_map (unrejected_inside (unrejected_writeAll layout (level + 1) items))
  | .tuple items =>
      unrejected_map (unrejected_inside (unrejected_writeAll layout (level + 1) items))
  | .map entries =>
      unrejected_map (unrejected_inside (unrejected_joinEntries
        (unrejected_writeEntries layout (level + 1) entries)))
  | .cyclic _ content => unrejected_writeAt layout level content
  | .text _ => unrejected_ok _
  | .null | .bool _ | .int _ | .float _ | .date _ | .moment _ | .bytes _ | .set _ | .again _ =>
      unrejected_map (unrejected_scalarText _)

theorem unrejected_writeAll (layout : Layout) (level : Nat) :
    ∀ values : List Value, Unrejected (writeAll layout level values)
  | [] => unrejected_ok []
  | value :: values =>
      unrejected_bind (unrejected_writeAt layout level value) fun _ _ =>
        unrejected_bind (unrejected_writeAll layout level values) fun _ _ => unrejected_ok _

theorem unrejected_writeEntries (layout : Layout) (level : Nat) :
    ∀ entries : List (Value × Value),
      ∀ entry ∈ writeEntries layout level entries, Unrejected entry.2
  | [] => by simp [writeEntries]
  | (key, value) :: entries => by
      rw [writeEntries, List.forall_mem_cons]
      exact ⟨unrejected_writeAt layout level value, unrejected_writeEntries layout level entries⟩

end

theorem unrejected_write (layout : Layout) (value : Value) : Unrejected (write layout value) :=
  unrejected_map (unrejected_writeAt layout 0 value)

/-! ## Values that can be written -/

theorem texts_of_writeEntries {layout : Layout} {level : Nat} {entries : List (Value × Value)}
    (json : Value.entriesAreJson entries = true) :
    ∀ entry ∈ writeEntries layout level entries, entry.1.text?.isSome = true := by
  induction entries with
  | nil => simp [writeEntries]
  | cons entry entries induction =>
      simp only [Value.entriesAreJson, Bool.and_eq_true] at json
      rw [writeEntries, List.forall_mem_cons]
      exact ⟨json.1.1, induction json.2⟩

theorem isWritable_of_text {key : Value} (named : key.text?.isSome = true) :
    key.isWritable = true := by
  cases key with
  | text content => rfl
  | _ => cases named

theorem succeeds_inside_iff {level : Nat} {written : Except Fault α} :
    Succeeds (inside level written) ↔ level < maxNesting ∧ Succeeds written := by
  rw [inside]
  split
  · next shallow => rw [and_iff_right shallow]
  · next deep => simp [Succeeds, deep]

theorem succeeds_writeAll_cons_iff {layout : Layout} {level : Nat} {value : Value}
    {values : List Value} :
    Succeeds (writeAll layout level (value :: values)) ↔
      Succeeds (writeAt layout level value) ∧ Succeeds (writeAll layout level values) := by
  rw [writeAll]
  cases writeAt layout level value <;> cases writeAll layout level values <;>
    simp [Succeeds, bind, Except.bind, pure, Except.pure]

theorem add_max_le_iff {level first second limit : Nat} :
    level + max first second ≤ limit ↔ level + first ≤ limit ∧ level + second ≤ limit := by
  omega

mutual

theorem writeAt_succeeds_iff (layout : Layout) {level : Nat} (within : level ≤ maxNesting) :
    ∀ {value : Value}, value.isJson = true →
      (Succeeds (writeAt layout level value) ↔
        value.isWritable = true ∧ level + value.levels ≤ maxNesting)
  | .list items, json => by
      -- The level of the list itself is the one that its items are measured from.
      rw [writeAt, succeeds_map_iff, succeeds_inside_iff, Value.isWritable, Value.levels]
      constructor
      · intro given
        rcases given with ⟨shallow, written⟩
        have each := (writeAll_succeeds_iff layout shallow json).mp written
        exact ⟨each.1, by omega⟩
      · intro given
        rcases given with ⟨writable, shallow⟩
        have room : level < maxNesting := by omega
        exact ⟨room, (writeAll_succeeds_iff layout room json).mpr ⟨writable, by omega⟩⟩
  | .map entries, json => by
      rw [writeAt, succeeds_map_iff, succeeds_inside_iff, Value.isWritable, Value.levels,
        joinEntries_succeeds_iff (texts_of_writeEntries json)]
      constructor
      · intro given
        rcases given with ⟨shallow, written⟩
        have each := (writeEntries_succeed_iff layout shallow json).mp written
        exact ⟨each.1, by omega⟩
      · intro given
        rcases given with ⟨writable, shallow⟩
        have room : level < maxNesting := by omega
        exact ⟨room, (writeEntries_succeed_iff layout room json).mpr ⟨writable, by omega⟩⟩
  | .int number, _ => by
      have limited : level + (Value.int number).levels ≤ maxNesting := within
      rw [writeAt, succeeds_map_iff, scalarText, Value.isWritable, and_iff_left limited]
      · cases Whole.isWritable number <;> simp [Succeeds]
      all_goals simp
  | .text _, _ => iff_of_true (.ok _) ⟨rfl, within⟩
  | .null, _ | .bool _, _ | .float _, _ => iff_of_true (.ok _) ⟨rfl, within⟩
  | .date _, json | .moment _, json | .bytes _, json | .set _, json | .tuple _, json
  | .cyclic _ _, json | .again _, json => by simp [Value.isJson] at json

theorem writeAll_succeeds_iff (layout : Layout) {level : Nat} (within : level < maxNesting) :
    ∀ {values : List Value}, Value.areJson values = true →
      (Succeeds (writeAll layout (level + 1) values) ↔
        Value.areWritable values = true ∧ level + 1 + Value.levelsOfAll values ≤ maxNesting)
  | [], _ => iff_of_true (.ok _) ⟨rfl, within⟩
  | value :: values, json => by
      simp only [Value.areJson, Bool.and_eq_true] at json
      have first := writeAt_succeeds_iff layout within json.1
      have rest := writeAll_succeeds_iff layout within json.2
      rw [succeeds_writeAll_cons_iff, first, rest, Value.areWritable, Value.levelsOfAll,
        add_max_le_iff, Bool.and_eq_true]
      tauto

theorem writeEntries_succeed_iff (layout : Layout) {level : Nat} (within : level < maxNesting) :
    ∀ {entries : List (Value × Value)}, Value.entriesAreJson entries = true →
      ((∀ entry ∈ writeEntries layout (level + 1) entries, Succeeds entry.2) ↔
        Value.entriesAreWritable entries = true ∧
          level + 1 + Value.levelsOfEntries entries ≤ maxNesting)
  | [], _ => iff_of_true (by simp [writeEntries]) ⟨rfl, within⟩
  | (key, value) :: entries, json => by
      simp only [Value.entriesAreJson, Bool.and_eq_true] at json
      have named := isWritable_of_text json.1.1
      have first := writeAt_succeeds_iff layout within json.1.2
      have rest := writeEntries_succeed_iff layout within json.2
      rw [writeEntries, List.forall_mem_cons, first, rest, Value.entriesAreWritable,
        Value.levelsOfEntries, add_max_le_iff, named, Bool.true_and, Bool.and_eq_true]
      tauto

end

/-- A value of a JSON text can be written unless it holds a number with too many digits or its
collections lie inside each other on too many levels. -/
theorem write_succeeds_iff (layout : Layout) {value : Value} (json : value.isJson = true) :
    Succeeds (write layout value) ↔ value.isWritable = true ∧ value.levels ≤ maxNesting := by
  rw [write, succeeds_map_iff, writeAt_succeeds_iff layout (Nat.zero_le _) json, Nat.zero_add]

theorem escapes_write_iff (layout : Layout) {value : Value} (json : value.isJson = true) :
    Escapes (write layout value) ↔ ¬ (value.isWritable = true ∧ value.levels ≤ maxNesting) := by
  have unrejected : Unrejected (write layout value) :=
    unrejected_map (unrejected_writeAt layout 0 value)
  rw [escapes_iff_of_unrejected unrejected, write_succeeds_iff layout json]

end Json

end ScreenFlow
