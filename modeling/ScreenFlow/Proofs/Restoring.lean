import ScreenFlow.Proofs.Grammar

namespace ScreenFlow

/-! Forms written as documents and read back. A reader settles what an author may leave open: a name
counts or is absent, options are texts, an id has a text. A form that is settled is found again in
its own document, and so is the form of every document that can be read. -/

open Outcome

theorem Outcome.exists_mapM {ε α β : Type} {step : α → Except ε β} {holds : α → β → Prop}
    {items : List α}
    (each : ∀ item ∈ items, ∃ result, step item = .ok result ∧ holds item result) :
    ∃ results, items.mapM step = .ok results ∧ List.Forall₂ holds items results := by
  have succeeds : Succeeds (items.mapM step) := by
    rw [mapM_succeeds_iff]
    intro item member
    rcases each item member with ⟨result, stepped, -⟩
    exact ⟨result, stepped⟩
  rcases succeeds with ⟨results, stepped⟩
  refine ⟨results, stepped, forall₂_of_mapM stepped fun item member result made => ?_⟩
  rcases each item member with ⟨other, same, held⟩
  rw [made, Except.ok.injEq] at same
  exact same ▸ held

/-! ## Texts that are not empty -/

theorem append_ne_empty (first : String) {rest : String} (filled : rest ≠ "") :
    first ++ rest ≠ "" := by
  simp [filled]

theorem Text.ofString_ne_empty {string : String} (filled : string ≠ "") : (string : Text) ≠ "" :=
  fun empty => filled (Text.ofString_inj.mp empty)

theorem Text.ne_empty_of_mem {text : Text} {point : Point} (member : point ∈ text.toList) :
    text ≠ "" := by
  rintro rfl
  cases member

theorem Date.inner_ne_empty (date : Date) : date.inner ≠ "" := append_ne_empty _ (by decide)

theorem Moment.inner_ne_empty (moment : Moment) : moment.inner ≠ "" :=
  append_ne_empty _ (by decide)

theorem repr_nat_ne_empty (number : Nat) : number.repr ≠ "" := by
  intro empty
  have digits := congrArg String.toList empty
  simp [Nat.toList_repr] at digits

theorem toString_int_ne_empty (number : Int) : toString number ≠ "" := by
  cases number with
  | ofNat size => exact repr_nat_ne_empty size
  | negSucc size => exact append_ne_empty "-" (repr_nat_ne_empty (size + 1))

namespace NumberFormat

theorem positional_ne_nil (digits : List Char) (leading : Int) :
    positional digits leading ≠ [] := by
  cases leading <;> simp [positional]

theorem scientific_ne_nil (format : NumberFormat) (digits : List Char) (leading : Int) :
    format.scientific digits leading ≠ [] := by
  simp [scientific]

theorem render_display_ne_empty (number : Binary64) : display.render number ≠ "" := by
  cases number with
  | nan => decide
  | infinity negative => cases negative <;> decide
  | finite negative significand exponent =>
      simp only [render, ne_eq, String.ofList_eq_empty_iff]
      split
      · simp
      · split
        · simp
        · split
          · exact positional_ne_nil _ _
          · exact scientific_ne_nil _ _ _

end NumberFormat

namespace Value

theorem ellipsis_ne_empty (value : Value) : value.ellipsis ≠ "" := by
  rw [ellipsis.eq_def]
  split <;> exact Text.ofString_ne_empty (by decide)

theorem enclosed_ne_empty {opening : String} (filled : opening ≠ "") (inside closing : Text) :
    (opening : Text) ++ inside ++ closing ≠ "" := by
  rw [ne_eq, ← Text.toList_eq_nil_iff]
  simpa [Text.toList_ofString] using fun empty => absurd empty filled

theorem innerWithin_ne_empty (around : List (Nat × Value)) :
    ∀ value : Value, innerWithin around value ≠ ""
  | .null => by simp [innerWithin]
  | .bool flag => by cases flag <;> simp [innerWithin]
  | .int number => Text.ofString_ne_empty (toString_int_ne_empty number)
  | .float number => Text.ofString_ne_empty (NumberFormat.render_display_ne_empty number)
  | .text content => Text.ne_empty_of_mem List.mem_cons_self
  | .list items => enclosed_ne_empty (by decide) _ _
  | .map entries => enclosed_ne_empty (by decide) _ _
  | .date day => Text.ofString_ne_empty day.inner_ne_empty
  | .moment stamp => Text.ofString_ne_empty stamp.inner_ne_empty
  | .bytes content => Text.ne_empty_of_mem List.mem_cons_self
  | .set members => by
      cases members with
      | nil => simp [innerWithin]
      | cons first rest => exact enclosed_ne_empty (by decide) _ _
  | .tuple items => by
      rcases items with _ | ⟨first, _ | ⟨second, rest⟩⟩
      · simp [innerWithin]
      · exact enclosed_ne_empty (by decide) _ _
      · exact enclosed_ne_empty (by decide) _ _
  | .cyclic label content => by
      rw [innerWithin]
      split
      · exact ellipsis_ne_empty content
      · exact innerWithin_ne_empty _ content
  | .again label => by
      rw [innerWithin]
      cases around.find? (·.1 == label) with
      | none => decide
      | some found => exact ellipsis_ne_empty found.2

theorem display_ne_empty {value : Value} (given : value.isGiven = true) : value.display ≠ "" := by
  cases value with
  | text content => simpa [isGiven] using given
  | date day => simp [display, Date.render]
  | moment stamp => simp [display, Moment.render]
  | _ => exact innerWithin_ne_empty [] _

theorem render_ne_empty {value : Value} {content : Text} (given : value.isGiven = true)
    (rendered : value.render = .ok content) : content ≠ "" := by
  rw [render] at rendered
  split at rendered
  · rcases Except.ok.inj rendered with rfl
    exact display_ne_empty given
  · cases rendered

/-! ## Entries that were written -/

section Entries

variable {key other : Text} (value : Value) {rest : List (Value × Value)}

@[simp] theorem entry_field_self : entry key (field key value :: rest) = value := by
  simp [entry, lookup?, field, text?]

@[simp] theorem entry_field_other (different : other ≠ key) :
    entry key (field other value :: rest) = entry key rest := by
  simp [entry, lookup?, field, text?, different]

@[simp] theorem entry_optional_self : entry key (optionalField key value) = value := by
  cases value with
  | null => rfl
  | _ => exact entry_field_self _

@[simp] theorem entry_optional_append_self (absent : entry key rest = .null) :
    entry key (optionalField key value ++ rest) = value := by
  cases value with
  | null => exact absent
  | _ => exact entry_field_self _

@[simp] theorem entry_optional_append_other (different : other ≠ key) :
    entry key (optionalField other value ++ rest) = entry key rest := by
  cases value with
  | null => rfl
  | _ => exact entry_field_other _ different

@[simp] theorem entry_optional_other (different : other ≠ key) :
    entry key (optionalField other value) = .null := by
  rw [← List.append_nil (optionalField other value), entry_optional_append_other value different]
  rfl

end Entries

end Value

namespace Component

/-- The component is as a reader leaves it: a name that counts or, on text, none; a truth value for
whether an answer is required; no options or texts. -/
def Settled : Component → Prop
  | .static _ _ name => name.isGiven = true ∨ name = .null
  | .input _ name _ required => name.isGiven = true ∧ ∃ flag, required = .bool flag
  | .choice _ name _ required options =>
      name.isGiven = true ∧ (∃ flag, required = .bool flag) ∧ options.AbsentOrTexts
  | .foreign => False

theorem settled_of_read {screen position value : Value} {component : Component}
    (read : ofValue screen position value = .ok component) : component.Settled := by
  simp only [ofValue] at read
  split at read
  · split at read
    · rcases bind_eq_ok.mp read with ⟨_, -, read⟩
      cases read
    · rcases pure_eq_ok.mp read with rfl
      rw [Settled]
      split
      · next given => exact .inl given
      · exact .inr rfl
    · split at read
      · next given =>
          rcases pure_eq_ok.mp read with rfl
          exact ⟨given, _, rfl⟩
      · exact absurd read not_rejectNameless
    · split at read
      · next given =>
          rcases bind_eq_ok.mp read with ⟨options, listed, read⟩
          rcases pure_eq_ok.mp read with rfl
          exact ⟨given, ⟨_, rfl⟩, texts_of_readOptions listed⟩
      · exact absurd read not_rejectNameless
  · cases read

theorem readOptions_of_texts (name : Value) {options : Value} (texts : options.AbsentOrTexts) :
    readOptions name options = .ok options := by
  rcases texts with rfl | ⟨contents, rfl⟩
  · rfl
  · have rendered : (contents.map Value.text).mapM (fun option => option.render.map Value.text) =
        .ok (contents.map Value.text) := by
      rw [mapM_eq_ok_iff, List.forall₂_same]
      intro text member
      rcases List.mem_map.mp member with ⟨content, -, rfl⟩
      rfl
    simp only [readOptions, Value.unroll, rendered, ok_bind]
    rfl

variable {screen position : Value} {entries : List (Value × Value)}

theorem ofValue_of_static (type : StaticType)
    (known : Value.entry "type" entries = .text type.word) :
    ofValue screen position (.map entries) = .ok (.static type (Value.entry "text" entries)
      (if (Value.entry "name" entries).isGiven then Value.entry "name" entries else .null)) := by
  have found := (@ComponentType.ofValue?_eq_some_iff _ (.static type)).mpr known
  simp only [ofValue, Value.unroll, found]
  rfl

theorem ofValue_of_input (type : InputType)
    (known : Value.entry "type" entries = .text type.word)
    (named : (Value.entry "name" entries).isGiven = true) :
    ofValue screen position (.map entries) = .ok (.input type (Value.entry "name" entries)
      (Value.entry "label" entries) (.bool (Value.entry "required" entries).isGiven)) := by
  have found := (@ComponentType.ofValue?_eq_some_iff _ (.input type)).mpr known
  simp only [ofValue, Value.unroll, found, named, if_true]
  rfl

theorem ofValue_of_choice (type : ChoiceType)
    (known : Value.entry "type" entries = .text type.word)
    (named : (Value.entry "name" entries).isGiven = true)
    (texts : (Value.entry "options" entries).AbsentOrTexts) :
    ofValue screen position (.map entries) = .ok (.choice type (Value.entry "name" entries)
      (Value.entry "label" entries) (.bool (Value.entry "required" entries).isGiven)
        (Value.entry "options" entries)) := by
  have found := (@ComponentType.ofValue?_eq_some_iff _ (.choice type)).mpr known
  simp only [ofValue, Value.unroll, found, named, if_true, readOptions_of_texts _ texts]
  rfl

theorem toValue_of_choice {type : ChoiceType} {name label required options : Value}
    (texts : options.AbsentOrTexts) :
    (choice type name label required options).toValue =
      .ok (.map ([field "type" (.text type.word), field "name" name,
        field "required" required] ++ optionalField "label" label ++
        optionalField "options" options)) := by
  rcases texts with rfl | ⟨contents, rfl⟩ <;> rfl

theorem restored_of_settled {component : Component} (settled : component.Settled) :
    ∃ value, component.toValue = .ok value ∧
      ∀ screen position, ofValue screen position value = .ok component := by
  cases component with
  | static type text name =>
      refine ⟨_, rfl, fun screen position => ?_⟩
      rw [ofValue_of_static type (by simp)]
      rcases settled with given | rfl <;> simp_all [Value.isGiven]
  | input type name label required =>
      rcases settled with ⟨given, flag, rfl⟩
      refine ⟨_, rfl, fun screen position => ?_⟩
      rw [ofValue_of_input type (by simp) (by simpa using given)]
      simp [Value.isGiven]
  | choice type name label required options =>
      rcases settled with ⟨given, ⟨flag, rfl⟩, texts⟩
      refine ⟨_, toValue_of_choice texts, fun screen position => ?_⟩
      rw [ofValue_of_choice type (by simp) (by simpa using given) (by simpa using texts)]
      simp [Value.isGiven]
  | foreign => exact settled.elim

end Component

/-! ## Screens -/

namespace Screen

/-- The screen is as a reader leaves it: its id has a text that is not empty, and its components are
settled. -/
structure Settled (screen : Screen) : Prop where
  identified : screen.id ≠ ""
  components : ∀ component ∈ screen.components, component.Settled

theorem rendered_of_outline {value : Value} {id : Text} {components : List Value}
    (outlined : outline value = .ok (id, components)) :
    ∃ given : Value, given.isGiven = true ∧ given.render = .ok id := by
  rw [outline] at outlined
  split at outlined
  · next entries _ =>
      dsimp only at outlined
      split at outlined
      · next given =>
          rcases bind_eq_ok.mp outlined with ⟨text, rendered, outlined⟩
          refine ⟨_, given, ?_⟩
          split at outlined
          · split at outlined
            · rcases pure_eq_ok.mp outlined with ⟨⟩
              exact rendered
            · cases outlined
          · rcases pure_eq_ok.mp outlined with ⟨⟩
            exact rendered
      · cases outlined
  · cases outlined

theorem settled_of_read {value : Value} {screen : Screen} (read : ofValue value = .ok screen) :
    screen.Settled := by
  rcases bind_eq_ok.mp read with ⟨⟨id, components⟩, outlined, read⟩
  rcases bind_eq_ok.mp read with ⟨_, -, read⟩
  rcases bind_eq_ok.mp read with ⟨parts, made, read⟩
  rcases pure_eq_ok.mp read with rfl
  refine ⟨?_, fun component member => ?_⟩
  · rcases rendered_of_outline outlined with ⟨source, given, rendered⟩
    exact Value.render_ne_empty given rendered
  · rw [Component.ofValues_eq_mapM] at made
    rcases of_mem_of_mapM made member with ⟨entry, -, built⟩
    exact Component.settled_of_read built

theorem outline_of_fields (id : Text) (title : Value) (components : List Value)
    (filled : id ≠ "") :
    outline (.map [field "id" (.text id), field "title" title,
      field "components" (.list components)]) = .ok (id, components) := by
  have given : (Value.text id).isGiven = true := by simpa [Value.isGiven] using filled
  have text : (Value.text id).render = .ok id := rfl
  simp only [outline, Value.unroll, Value.entry_field_self, given, if_true, text, ok_bind]
  -- An empty list counts as absent, and then there are no components either.
  cases components <;> rfl

theorem restored_of_settled {screen : Screen} (settled : screen.Settled)
    (few : screen.components.length ≤ maxComponents) :
    ∃ value, screen.toValue = .ok value ∧ ofValue value = .ok screen := by
  rcases exists_mapM fun component member =>
    Component.restored_of_settled (settled.components component member) with
    ⟨values, written, restored⟩
  have outlined := outline_of_fields screen.id screen.title values settled.identified
  refine ⟨_, by rw [toValue, written, ok_bind]; rfl, ?_⟩
  rw [ofValue_of_outline outlined (restored.length_eq ▸ few)]
  have read : (Sequence.indexed values).mapM (fun entry =>
      Component.ofValue (.text screen.id) (.int entry.1) entry.2) = .ok screen.components := by
    rw [← Sequence.map_snd_indexed values, List.forall₂_map_right_iff] at restored
    rw [mapM_eq_ok_iff]
    exact restored.flip.imp fun entry component held => held _ _
  rw [read]
  rfl

end Screen

/-! ## Forms -/

namespace Schema

/-- The form is as a reader leaves it: its layout fits and its screens are settled. -/
structure Settled (schema : Schema) : Prop where
  fits : Layout.Fits schema.counts
  screens : ∀ screen ∈ schema.screens, screen.Settled

theorem settled_of_read {document : Value} {schema : Schema}
    (read : ofValue document = .ok schema) : schema.Settled := by
  refine ⟨fits_of_read read, fun screen member => ?_⟩
  rcases ofValue_eq_ok read with ⟨screens, -, -, -, built⟩
  rcases of_mem_of_mapM built member with ⟨source, -, made⟩
  exact Screen.settled_of_read made

theorem ofScreens_of_read {values : List Value} {schema : Schema}
    (fits : Layout.Fits schema.counts) (read : values.mapM Screen.ofValue = .ok schema.screens) :
    ofScreens values = .ok schema := by
  have outlines : Succeeds (values.mapM Screen.outline) := by
    rw [mapM_succeeds_iff]
    intro value member
    rcases mapM_succeeds_iff.mp ⟨_, read⟩ value member with ⟨screen, made⟩
    rcases Screen.ofValue_eq_ok made with ⟨components, outlined, -⟩
    exact ⟨_, outlined⟩
  rcases outlines with ⟨outlines, outlined⟩
  have sizes := Screen.sizes_of_outlines outlined read
  have lengths := (mapM_eq_ok_iff.mp read).length_eq
  have counted : Layout.checkScreenCount (.int values.length) = .ok () :=
    Layout.checkScreenCount_eq_ok_iff.mpr
      ⟨by simpa [counts, lengths] using fits.nonempty,
        by simpa [counts, lengths] using fits.screens⟩
  have checked : Layout.check (Layout.ofCounts (schema.screens.map fun screen =>
      (screen.id, screen.components.length))) = .ok () := Layout.check_eq_ok_iff.mpr fits
  rw [ofScreens, counted, ok_bind, ofOutlined_eq, outlined, ok_bind, sizes, checked, ok_bind, read]
  rfl

theorem restored_of_settled {schema : Schema} (settled : schema.Settled) :
    ∃ written, schema.toValue = .ok written ∧ ofValue written = .ok schema := by
  have small : ∀ screen ∈ schema.screens, screen.components.length ≤ maxComponents :=
    fun screen member => settled.fits.components _ (List.mem_map_of_mem member)
  rcases exists_mapM fun screen member =>
    Screen.restored_of_settled (settled.screens screen member) (small screen member) with
    ⟨values, written, restored⟩
  refine ⟨.map [field "screens" (.list values)], by rw [toValue, written]; rfl, ?_⟩
  rw [ofValue_of_screens rfl]
  exact ofScreens_of_read settled.fits (mapM_eq_ok_iff.mpr restored.flip)

theorem settled_iff_read {schema : Schema} :
    schema.Settled ↔ ∃ document, ofValue document = .ok schema := by
  constructor
  · intro settled
    rcases restored_of_settled settled with ⟨written, -, restored⟩
    exact ⟨written, restored⟩
  · intro given
    rcases given with ⟨document, read⟩
    exact settled_of_read read

/-! ## Documents -/

/-- The document of the form that a document describes. -/
def normalized (document : Value) : Except Fault Value := do (← ofValue document).toValue

/-- The form of a document is found again in its own document, which is its own normal form. -/
theorem restored_of_read {document : Value} {schema : Schema}
    (read : ofValue document = .ok schema) :
    ∃ written, schema.toValue = .ok written ∧ ofValue written = .ok schema ∧
      normalized document = .ok written ∧ normalized written = .ok written := by
  rcases restored_of_settled (settled_of_read read) with ⟨written, wrote, restored⟩
  refine ⟨written, wrote, restored, ?_, ?_⟩
  · rw [normalized, read, ok_bind, wrote]
  · rw [normalized, restored, ok_bind, wrote]

/-- A document that leaves much open: an id and options that are no texts, a name that does not
count, an empty label and a date among the entries. -/
def openDocument : Value :=
  .map [field "screens" (.list [
    .map [field "id" (.int 7), field "title" .null, field "components" (.list [
      .map [field "type" (.text "caption"), field "name" (.bool false), field "text" .null],
      .map [field "type" (.text "input"), field "name" (.list [.null]), field "label" (.text ""),
        field "required" (.text "yes"), field "due" (.date ⟨2024, 1, 2⟩)],
      .map [field "options" (.list [.int 1, .null]), field "name" (.text "r"),
        field "type" (.text "radio")]])]])]

def openSchema : Schema := ⟨[
  { id := "7"
    title := .null
    components := [
      .static .caption .null .null,
      .input .input (.list [.null]) (.text "") (.bool true),
      .choice .radio (.text "r") .null (.bool false) (.list [.text "1", .text "None"])] }]⟩

theorem openDocument_restored : ofValue openDocument = .ok openSchema ∧
    ∃ written, openSchema.toValue = .ok written ∧ ofValue written = .ok openSchema ∧
      normalized openDocument = .ok written ∧ normalized written = .ok written := by
  have read : ofValue openDocument = .ok openSchema := by decide +kernel
  exact ⟨read, restored_of_read read⟩

end Schema

end ScreenFlow
