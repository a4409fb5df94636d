import ScreenFlow.Proofs.Encodable
import ScreenFlow.Proofs.Restoring

namespace ScreenFlow

/-! What a form takes over from its document. A property that passes from a collection to its parts
and back, one level at a time, passes from a document to the document that is written for its form. -/

open Outcome

namespace Value

/-- The property holds of collections, one level up, as it does of their parts, and of texts unless
they hold surrogates. Keys are texts that differ. -/
structure Hereditary (holds : Nat → Value → Prop) : Prop where
  null : ∀ levels, holds levels .null
  bool : ∀ levels flag, holds levels (.bool flag)
  word : ∀ levels content, content.isEncodable = true → holds levels (.text content)
  shown : ∀ levels value, holds levels value → holds levels (.text value.display)
  items : ∀ levels items, holds (levels + 1) (.list items) ↔ ∀ item ∈ items, holds levels item
  entries : ∀ levels entries, holds (levels + 1) (.map entries) →
    ∀ entry ∈ entries, holds levels entry.2
  fields : ∀ levels entries, (entries.map Prod.fst).Nodup →
    (∀ entry ∈ entries,
      entry.1.text?.isSome = true ∧ holds levels entry.1 ∧ holds levels entry.2) →
      holds (levels + 1) (.map entries)

/-- The property is hereditary and holds of all texts. -/
structure Structural (holds : Nat → Value → Prop) : Prop extends Hereditary holds where
  text : ∀ levels content, holds levels (.text content)
  word levels content _ := text levels content
  shown levels value _ := text levels value.display

namespace Hereditary

variable {holds : Nat → Value → Prop} {levels : Nat} {entries : List (Value × Value)}

theorem looked_up (hereditary : Hereditary holds) {key : Text} {value : Value}
    (held : holds (levels + 1) (.map entries)) (found : lookup? key entries = some value) :
    holds levels value := by
  rcases Option.map_eq_some_iff.mp found with ⟨entry, among, rfl⟩
  exact hereditary.entries levels entries held entry (List.mem_of_find?_eq_some among)

theorem entry (hereditary : Hereditary holds) (key : Text)
    (held : holds (levels + 1) (.map entries)) : holds levels (Value.entry key entries) := by
  rw [Value.entry]
  cases found : lookup? key entries with
  | none => exact hereditary.null levels
  | some value => exact hereditary.looked_up held found

theorem of_sublist (hereditary : Hereditary holds) {fields : List (Value × Value)}
    (sublist : entries.Sublist fields) (distinct : (fields.map Prod.fst).Nodup)
    (each : ∀ entry ∈ fields,
      entry.1.text?.isSome = true ∧ holds levels entry.1 ∧ holds levels entry.2) :
    holds (levels + 1) (.map entries) :=
  hereditary.fields levels entries (distinct.sublist (sublist.map Prod.fst)) fun entry member =>
    each entry (sublist.subset member)

end Hereditary

theorem optionalField_sublist (name : Text) (value : Value) :
    (optionalField name value).Sublist [field name value] := by
  rw [optionalField]
  split
  · exact List.nil_sublist _
  · exact List.Sublist.refl _

/-! ### Instances -/

theorem structural_isPlain : Structural fun _ value => value.isPlain = true where
  null _ := rfl
  bool _ _ := rfl
  text _ _ := rfl
  items _ _ := arePlain_iff
  entries _ entries plain := by
    rw [isPlain, Bool.and_eq_true] at plain
    exact fun entry member => (entriesArePlain_iff.mp plain.2 entry member).2
  fields _ entries distinct each := by
    rw [isPlain, Bool.and_eq_true]
    exact ⟨decide_eq_true distinct, entriesArePlain_iff.mpr fun entry member =>
      ⟨(each entry member).1, (each entry member).2.2⟩⟩

theorem areWritable_iff {values : List Value} :
    areWritable values = true ↔ ∀ value ∈ values, value.isWritable = true := by
  induction values with
  | nil => simp [areWritable]
  | cons value values induction => simp [areWritable, induction]

theorem entriesAreWritable_iff {entries : List (Value × Value)} :
    entriesAreWritable entries = true ↔
      ∀ entry ∈ entries, entry.1.isWritable = true ∧ entry.2.isWritable = true := by
  induction entries with
  | nil => simp [entriesAreWritable]
  | cons entry entries induction => simp [entriesAreWritable, induction, and_assoc]

theorem structural_isWritable : Structural fun _ value => value.isWritable = true where
  null _ := rfl
  bool _ _ := rfl
  text _ _ := rfl
  items _ _ := areWritable_iff
  entries _ _ writable := fun entry member =>
    (entriesAreWritable_iff.mp writable entry member).2
  fields _ _ _ each := entriesAreWritable_iff.mpr fun entry member => (each entry member).2

theorem levelsOfAll_le_iff {values : List Value} {levels : Nat} :
    levelsOfAll values ≤ levels ↔ ∀ value ∈ values, value.levels ≤ levels := by
  induction values with
  | nil => simp [levelsOfAll]
  | cons value values induction =>
      rw [levelsOfAll, Nat.max_le, induction, List.forall_mem_cons]

theorem levelsOfEntries_le_iff {entries : List (Value × Value)} {levels : Nat} :
    levelsOfEntries entries ≤ levels ↔ ∀ entry ∈ entries, entry.2.levels ≤ levels := by
  induction entries with
  | nil => simp [levelsOfEntries]
  | cons entry entries induction =>
      rw [levelsOfEntries, Nat.max_le, induction, List.forall_mem_cons]

theorem structural_levels : Structural fun levels value => value.levels ≤ levels where
  null levels := Nat.zero_le levels
  bool levels _ := Nat.zero_le levels
  text levels _ := Nat.zero_le levels
  items levels items := by rw [Value.levels, Nat.add_le_add_iff_right, levelsOfAll_le_iff]
  entries levels entries shallow := by
    rwa [Value.levels, Nat.add_le_add_iff_right, levelsOfEntries_le_iff] at shallow
  fields levels entries _ each := by
    rw [Value.levels, Nat.add_le_add_iff_right, levelsOfEntries_le_iff]
    exact fun entry member => (each entry member).2.2

theorem hereditary_isEncodable : Hereditary fun _ value => value.isEncodable = true where
  null _ := rfl
  bool _ _ := rfl
  word _ _ encodable := encodable
  shown _ _ := isEncodable_display
  items _ _ := areEncodable_iff
  entries _ _ encodable := fun entry member => (entriesAreEncodable_iff.mp encodable entry member).2
  fields _ _ _ each := entriesAreEncodable_iff.mpr fun entry member => (each entry member).2

end Value

@[simp] theorem StaticType.isEncodable_word (type : StaticType) : type.word.isEncodable = true := by
  cases type <;> rfl

@[simp] theorem InputType.isEncodable_word (type : InputType) : type.word.isEncodable = true := by
  cases type <;> rfl

@[simp] theorem ChoiceType.isEncodable_word (type : ChoiceType) : type.word.isEncodable = true := by
  cases type <;> rfl

/-! ## Components -/

namespace Component

def Keeps (holds : Value → Prop) : Component → Prop
  | .static _ text name => holds text ∧ holds name
  | .input _ name label required => holds name ∧ holds label ∧ holds required
  | .choice _ name label required options =>
      holds name ∧ holds label ∧ holds required ∧ holds options ∧ options.AbsentOrTexts
  | .foreign => False

variable {holds : Nat → Value → Prop} {levels : Nat} {component : Component}

theorem options_of_describes (hereditary : Value.Hereditary holds) {options given : Value}
    (describes : options.DescribesOptions given) (held : holds (levels + 1) options) :
    holds (levels + 1) given ∧ given.AbsentOrTexts := by
  cases describes with
  | absent => exact ⟨hereditary.null _, .inl rfl⟩
  | list options =>
      rw [hereditary.items] at held ⊢
      refine ⟨fun text member => ?_, .inr ⟨options.map Value.display, by simp⟩⟩
      rcases List.mem_map.mp member with ⟨option, among, rfl⟩
      exact hereditary.shown levels option (held option among)

theorem keeps_of_describes (hereditary : Value.Hereditary holds) {value : Value}
    (describes : value.DescribesComponent component) (held : holds (levels + 2) value) :
    component.Keeps (holds (levels + 1)) := by
  cases describes with
  | static known =>
      refine ⟨hereditary.entry "text" held, ?_⟩
      split
      · exact hereditary.entry "name" held
      · exact hereditary.null _
  | input known named =>
      exact ⟨hereditary.entry "name" held, hereditary.entry "label" held, hereditary.bool _ _⟩
  | choice known named offered =>
      exact ⟨hereditary.entry "name" held, hereditary.entry "label" held, hereditary.bool _ _,
        options_of_describes hereditary offered (hereditary.entry "options" held)⟩

theorem holds_written (hereditary : Value.Hereditary holds)
    (keeps : component.Keeps (holds (levels + 1))) {written : Value}
    (wrote : component.toValue = .ok written) : holds (levels + 2) written := by
  cases component with
  | static type text name =>
      rcases keeps with ⟨text_held, name_held⟩
      rcases Except.ok.inj wrote with rfl
      have sublist := (Value.optionalField_sublist "name" name).append
        (Value.optionalField_sublist "text" text)
      refine hereditary.of_sublist (sublist.cons_cons _) (by simp [field]) ?_
      simp [field, Value.text?, hereditary.word, text_held, name_held]
  | input type name label required =>
      rcases keeps with ⟨name_held, label_held, required_held⟩
      rcases Except.ok.inj wrote with rfl
      have sublist := Value.optionalField_sublist "label" label
      refine hereditary.of_sublist (sublist.append_left _) (by simp [field]) ?_
      simp [field, Value.text?, hereditary.word, name_held, label_held, required_held]
  | choice type name label required options =>
      rcases keeps with ⟨name_held, label_held, required_held, options_held, texts⟩
      rw [toValue_of_choice texts, Except.ok.injEq] at wrote
      rcases wrote with rfl
      have sublist := ((Value.optionalField_sublist "label" label).append_left
        [field "type" (.text type.word), field "name" name, field "required" required]).append
        (Value.optionalField_sublist "options" options)
      refine hereditary.of_sublist sublist (by simp [field]) ?_
      simp [field, Value.text?, hereditary.word, name_held, label_held, required_held,
        options_held]
  | foreign => exact keeps.elim

end Component

/-! ## Screens -/

namespace Screen

structure Keeps (holds : Nat → Value → Prop) (levels : Nat) (screen : Screen) : Prop where
  id : holds (levels + 3) (.text screen.id)
  title : holds (levels + 3) screen.title
  components : ∀ component ∈ screen.components, component.Keeps (holds (levels + 1))

variable {holds : Nat → Value → Prop} {levels : Nat} {screen : Screen}

theorem holds_of_mem_componentsOf (hereditary : Value.Hereditary holds)
    {entries : List (Value × Value)} (held : holds (levels + 2) (.map entries)) :
    ∀ component ∈ componentsOf (.map entries), holds levels component := by
  have listed := hereditary.entry "components" held
  rw [componentsOf_map]
  cases there : Value.entry "components" entries with
  | list items =>
      rw [there] at listed
      exact (hereditary.items levels items).mp listed
  | _ => exact fun component member => absurd member List.not_mem_nil

theorem keeps_of_describes (hereditary : Value.Hereditary holds) {value : Value}
    (describes : value.DescribesScreen screen) (held : holds (levels + 4) value) :
    screen.Keeps holds levels := by
  rcases describes with ⟨⟨-, -⟩, id, title, -, components⟩
  refine ⟨?_, ?_, ?_⟩
  · rw [id, idOf_map]
    exact hereditary.shown _ _ (hereditary.entry "id" held)
  · rw [title, Value.member?]
    cases found : Value.lookup? "title" _ with
    | none => exact hereditary.word _ _ rfl
    | some title => exact hereditary.looked_up held found
  · intro component member
    rcases exists_of_forall₂ components member with ⟨source, among, describes⟩
    exact Component.keeps_of_describes hereditary describes
      (holds_of_mem_componentsOf hereditary held source among)

theorem holds_written (hereditary : Value.Hereditary holds) (keeps : screen.Keeps holds levels)
    {written : Value} (wrote : screen.toValue = .ok written) : holds (levels + 4) written := by
  rcases bind_eq_ok.mp wrote with ⟨components, each, wrote⟩
  rcases pure_eq_ok.mp wrote with rfl
  have listed : holds (levels + 3) (.list components) := by
    rw [hereditary.items]
    intro value member
    rcases of_mem_of_mapM each member with ⟨component, among, made⟩
    exact Component.holds_written hereditary (keeps.components component among) made
  refine hereditary.fields _ _ (by simp [field]) ?_
  simp [field, Value.text?, hereditary.word, keeps.id, keeps.title, listed]

end Screen

/-! ## Forms -/

theorem Schema.holds_written {holds : Nat → Value → Prop} (hereditary : Value.Hereditary holds)
    (levels : Nat) {document written : Value} {schema : Schema} (json : document.isJson = true)
    (read : ofValue document = .ok schema) (wrote : schema.toValue = .ok written)
    (held : holds (levels + 6) document) : holds (levels + 6) written := by
  rcases (describes_of_read json read).screens with ⟨screens, listed, each⟩
  rcases screens?_eq_some_iff.mp listed with ⟨entries, rfl, found⟩
  -- Screens lie two levels inside the document, and its form has them on the same level.
  have sources := (hereditary.items _ _).mp (hereditary.looked_up held found)
  rcases bind_eq_ok.mp wrote with ⟨values, made, wrote⟩
  rcases pure_eq_ok.mp wrote with rfl
  refine hereditary.fields _ _ (by simp [field]) ?_
  simp only [field, List.mem_singleton, forall_eq, hereditary.items]
  refine ⟨rfl, hereditary.word _ _ rfl, fun value member => ?_⟩
  rcases of_mem_of_mapM made member with ⟨screen, among, written⟩
  rcases exists_of_forall₂ each among with ⟨source, there, describes⟩
  exact Screen.holds_written hereditary
    (Screen.keeps_of_describes hereditary describes (sources source there)) written

end ScreenFlow
