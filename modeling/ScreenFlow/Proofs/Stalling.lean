import ScreenFlow.Proofs.Outline

namespace ScreenFlow

/-! Documents that can be neither read nor refused. A check that refuses a document reports the value
that it refuses; a report, like the text that an id or an option is read as, cannot be written for a
value that holds a number with too many digits. -/

open Outcome

/-! ## Components -/

namespace Value

/-- The document of a component that can be neither read nor refused: the report on it, or the text
of one of its options, cannot be written. -/
inductive Unreadable : Value → Prop where
  | type {entries : List (Value × Value)}
      (unknown : ComponentType.ofValue? (entry "type" entries) = none)
      (unwritable : (entry "type" entries).isWritable = false) : Unreadable (.map entries)
  | nameless {entries : List (Value × Value)} {type : ComponentType}
      (known : ComponentType.ofValue? (entry "type" entries) = some type)
      (field : ∀ kind, type ≠ .static kind)
      (nameless : (entry "name" entries).isGiven = false)
      (unwritable : ¬ ((Value.map entries).isWritable = true ∧
        (Value.map entries).levels ≤ Json.maxNesting)) :
      Unreadable (.map entries)
  | option {entries : List (Value × Value)} {kind : ChoiceType} {options : List Value}
      {option : Value}
      (known : ComponentType.ofValue? (entry "type" entries) = some (.choice kind))
      (named : (entry "name" entries).isGiven = true)
      (listed : entry "options" entries = .list options) (member : option ∈ options)
      (unwritable : option.isWritable = false) : Unreadable (.map entries)
  | options {entries : List (Value × Value)} {kind : ChoiceType}
      (known : ComponentType.ofValue? (entry "type" entries) = some (.choice kind))
      (named : (entry "name" entries).isGiven = true)
      (present : entry "options" entries ≠ .null)
      (unlisted : ∀ options, entry "options" entries ≠ .list options)
      (unwritable : (entry "name" entries).isWritable = false) : Unreadable (.map entries)

end Value

namespace Component

variable {screen position : Value}

theorem escapes_rejectNameless_iff {type : ComponentType} {entries : List (Value × Value)}
    (json : (Value.map entries).isJson = true) :
    Escapes (rejectNameless type screen position entries : Except Fault Component) ↔
      ¬ ((Value.map entries).isWritable = true ∧
        (Value.map entries).levels ≤ Json.maxNesting) := by
  rw [rejectNameless, escapes_bind, Json.escapes_write_iff .sorted json]
  apply or_iff_left
  intro known
  rcases known with ⟨given, -, escaped⟩
  exact not_escapes_reject _ escaped

theorem escapes_readOptions_iff {name options : Value} (json : options.isJson = true) :
    Escapes (readOptions name options) ↔
      (∃ items option, options = .list items ∧ option ∈ items ∧ option.isWritable = false) ∨
        (options ≠ .null ∧ (∀ items, options ≠ .list items) ∧ name.isWritable = false) := by
  rw [readOptions, Value.unroll_of_isJson json]
  split
  · simp [not_escapes_pure]
  · next items =>
      have unrejected :
          Unrejected (items.mapM fun option : Value => option.render.map Value.text) :=
        unrejected_mapM fun option _ => unrejected_map (unrejected_render option)
      have escapes : Escapes (items.mapM fun option : Value => option.render.map Value.text) ↔
          ∃ option ∈ items, option.isWritable = false := by
        rw [escapes_iff_of_unrejected unrejected, mapM_succeeds_iff]
        simp [succeeds_map_iff, succeeds_render_iff]
      rw [escapes_bind]
      simp only [escapes, not_escapes_pure, and_false, exists_false, or_false]
      simp
  · next absent unlisted =>
      rw [escapes_bind, escapes_render_iff]
      simp only [not_escapes_rejectShape, and_false, exists_false, or_false]
      constructor
      · exact fun unwritable => .inr ⟨absent, unlisted, unwritable⟩
      · intro given
        rcases given with ⟨items, -, listed, -⟩ | ⟨-, -, unwritable⟩
        · exact absurd listed (unlisted items)
        · exact unwritable

theorem escapes_ofValue_map_iff {entries : List (Value × Value)}
    (json : (Value.map entries).isJson = true) :
    Escapes (ofValue screen position (.map entries)) ↔ (Value.map entries).Unreadable := by
  have options := Value.isJson_entry "options" json
  simp only [ofValue, Value.unroll]
  constructor
  · intro escaped
    split at escaped
    · next unknown =>
        rw [escapes_bind, escapes_renderInner_iff] at escaped
        rcases escaped with unwritable | ⟨_, -, escaped⟩
        · exact .type unknown unwritable
        · exact absurd escaped (not_escapes_rejectShape _)
    · exact absurd escaped (not_escapes_pure _)
    · next kind known =>
        split at escaped
        · exact absurd escaped (not_escapes_pure _)
        · next nameless =>
            exact .nameless known (by simp) (Bool.eq_false_iff.mpr nameless)
              ((escapes_rejectNameless_iff json).mp escaped)
    · next kind known =>
        split at escaped
        · next named =>
            rw [escapes_bind, escapes_readOptions_iff options] at escaped
            rcases escaped with (⟨items, option, listed, member, unwritable⟩ |
              ⟨present, unlisted, unwritable⟩) | ⟨_, -, escaped⟩
            · exact .option known named listed member unwritable
            · exact .options known named present unlisted unwritable
            · exact absurd escaped (not_escapes_pure _)
        · next nameless =>
            exact .nameless known (by simp) (Bool.eq_false_iff.mpr nameless)
              ((escapes_rejectNameless_iff json).mp escaped)
  · intro unreadable
    cases unreadable with
    | type unknown unwritable =>
        rw [unknown]
        exact escapes_bind.mpr (.inl (escapes_renderInner_iff.mpr unwritable))
    | @nameless _ type known field nameless unwritable =>
        rw [known]
        cases type with
        | static kind => exact absurd rfl (field kind)
        | input kind =>
            simp only [nameless]
            exact (escapes_rejectNameless_iff json).mpr unwritable
        | choice kind =>
            simp only [nameless]
            exact (escapes_rejectNameless_iff json).mpr unwritable
    | option known named listed member unwritable =>
        rw [known]
        simp only [named]
        exact escapes_bind.mpr (.inl ((escapes_readOptions_iff options).mpr
          (.inl ⟨_, _, listed, member, unwritable⟩)))
    | options known named present unlisted unwritable =>
        rw [known]
        simp only [named]
        exact escapes_bind.mpr (.inl ((escapes_readOptions_iff options).mpr
          (.inr ⟨present, unlisted, unwritable⟩)))

theorem map_of_unreadable {value : Value} (unreadable : value.Unreadable) :
    ∃ entries, value = .map entries := by
  cases unreadable <;> exact ⟨_, rfl⟩

theorem escapes_ofValue_iff {value : Value} (json : value.isJson = true) :
    Escapes (ofValue screen position value) ↔ value.Unreadable := by
  cases value with
  | map entries => exact escapes_ofValue_map_iff json
  | null | bool | int | float | text | list =>
      apply iff_of_false (not_escapes_rejectShape _)
      intro unreadable
      simpa using map_of_unreadable unreadable
  | _ => simp [Value.isJson] at json

end Component

/-! ## Screens -/

namespace Screen

theorem escapes_ofValue_iff {value : Value} {id : Text} {components : List Value}
    (json : value.isJson = true) (outlined : outline value = .ok (id, components))
    (few : components.length ≤ maxComponents) :
    Escapes (ofValue value) ↔ ∃ front entry back,
      Sequence.indexed components = front ++ entry :: back ∧
        (∀ earlier ∈ front,
          Succeeds (Component.ofValue (.text id) (.int earlier.1) earlier.2)) ∧
        entry.2.Unreadable := by
  rw [ofValue_of_outline outlined few, escapes_map, escapes_mapM]
  apply exists_congr
  intro front
  apply exists_congr
  intro entry
  apply exists_congr
  intro back
  apply and_congr_right
  intro split
  apply and_congr_right
  intro _
  have member : entry ∈ Sequence.indexed components := by simp [split]
  exact Component.escapes_ofValue_iff
    (isJson_of_outline json outlined entry.2 (Sequence.snd_mem_of_mem_indexed member))

end Screen

/-! ## Forms -/

namespace Schema

theorem escapes_ofValue_iff {document : Value} (json : document.isJson = true) :
    Escapes (ofValue document) ↔
      ∃ screens, document.screens? = some screens ∧ Escapes (ofScreens screens) := by
  cases listed : document.screens? with
  | some screens => simp [ofValue_of_screens listed]
  | none =>
      rcases ofValue_of_no_screens json listed with ⟨malformation, refused⟩
      rw [refused]
      exact iff_of_false (not_escapes_rejectShape malformation) (by simp)

theorem escapes_check_then_iff {counts : List (Text × Nat)} {next : Except Fault α} :
    Escapes (Layout.check (Layout.ofCounts counts) >>= fun _ => next) ↔
      Layout.Fits counts ∧ Escapes next := by
  rw [escapes_bind, or_iff_right (Layout.not_escapes_check counts), ← Layout.check_eq_ok_iff]
  exact ⟨fun ⟨⟨⟩, checked, escaped⟩ => ⟨checked, escaped⟩,
    fun ⟨checked, escaped⟩ => ⟨(), checked, escaped⟩⟩

theorem escapes_ofOutlined_iff {screens : List Value} :
    Escapes (ofOutlined screens) ↔
      Escapes (screens.mapM Screen.outline) ∨
        ∃ outlines, screens.mapM Screen.outline = .ok outlines ∧
          Layout.Fits (outlines.map fun outline => (outline.1, outline.2.length)) ∧
            Escapes (screens.mapM Screen.ofValue) := by
  rw [ofOutlined_eq, escapes_bind]
  refine or_congr_right (exists_congr fun outlines => and_congr_right fun _ => ?_)
  rw [escapes_check_then_iff, escapes_map]

theorem escapes_ofScreens_iff {screens : List Value} :
    Escapes (ofScreens screens) ↔
      (screens.length ≤ maxScreens ∧ Escapes (screens.mapM Screen.outline)) ∨
        ∃ outlines, screens.mapM Screen.outline = .ok outlines ∧
          Layout.Fits (outlines.map fun outline => (outline.1, outline.2.length)) ∧
            Escapes (screens.mapM Screen.ofValue) := by
  have counted : Escapes (ofScreens screens) ↔
      (screens.length ≠ 0 ∧ screens.length ≤ maxScreens) ∧ Escapes (ofOutlined screens) := by
    rw [ofScreens, escapes_bind, or_iff_right (Layout.not_escapes_checkScreenCount _),
      ← Layout.checkScreenCount_eq_ok_iff]
    exact ⟨fun ⟨⟨⟩, checked, escaped⟩ => ⟨checked, escaped⟩,
      fun ⟨checked, escaped⟩ => ⟨(), checked, escaped⟩⟩
  rw [counted, escapes_ofOutlined_iff]
  constructor
  · intro given
    rcases given with ⟨⟨-, few⟩, escaped | fitted⟩
    · exact .inl ⟨few, escaped⟩
    · exact .inr fitted
  · intro given
    rcases given with ⟨few, escaped⟩ | ⟨outlines, outlined, fits, escaped⟩
    · have filled : screens.length ≠ 0 := by
        intro empty
        rw [List.length_eq_zero_iff.mp empty] at escaped
        exact not_escapes_pure _ escaped
      exact ⟨⟨filled, few⟩, .inl escaped⟩
    · have lengths := (mapM_eq_ok_iff.mp outlined).length_eq
      have filled := fits.nonempty
      have few := fits.screens
      rw [List.length_map, ← lengths] at few
      refine ⟨⟨?_, few⟩, .inr ⟨outlines, outlined, fits, escaped⟩⟩
      rw [lengths]
      simpa using filled

/-- The screens are not too many, and the first of them without an outline has an id that has no
text. -/
def UnwritableId (screens : List Value) : Prop :=
  screens.length ≤ maxScreens ∧ ∃ before screen after, screens = before ++ screen :: after ∧
    (∀ earlier ∈ before, Succeeds (Screen.outline earlier)) ∧ screen.Unidentified

theorem unwritableId_iff {screens : List Value} (json : ∀ screen ∈ screens, screen.isJson = true) :
    UnwritableId screens ↔
      screens.length ≤ maxScreens ∧ Escapes (screens.mapM Screen.outline) := by
  rw [UnwritableId, escapes_mapM]
  apply and_congr_right
  intro _
  constructor
  · intro given
    rcases given with ⟨before, screen, after, rfl, outlined, unidentified⟩
    have inside := json screen (by simp)
    exact ⟨before, screen, after, rfl, outlined, (Screen.escapes_outline_iff inside).mpr unidentified⟩
  · intro given
    rcases given with ⟨before, screen, after, rfl, outlined, escaped⟩
    have inside := json screen (by simp)
    exact ⟨before, screen, after, rfl, outlined, (Screen.escapes_outline_iff inside).mp escaped⟩

end Schema

/-! ## Documents -/

/-- The documents that can be neither read nor refused. -/
inductive Stalls (document : Value) : Prop where
  | id {screens : List Value} (listed : document.screens? = some screens)
      (unwritable : Schema.UnwritableId screens)
  | component {before after : List Value} {screen : Value} {id : Text}
      {outlines : List (Text × List Value)} {components : List Value}
      {front back : List (Nat × Value)} {entry : Nat × Value}
      (listed : document.screens? = some (before ++ screen :: after))
      (outlined : (before ++ screen :: after).mapM Screen.outline = .ok outlines)
      (fits : Layout.Fits (outlines.map fun outline => (outline.1, outline.2.length)))
      (read : ∀ earlier ∈ before, Succeeds (Screen.ofValue earlier))
      (outline : Screen.outline screen = .ok (id, components))
      (parts : Sequence.indexed components = front ++ entry :: back)
      (readFront : ∀ earlier ∈ front,
        Succeeds (Component.ofValue (.text id) (.int earlier.1) earlier.2))
      (unreadable : entry.2.Unreadable)

namespace Schema

theorem stalls_of_escapes_ofScreens {document : Value} {screens : List Value}
    (json : document.isJson = true) (listed : document.screens? = some screens)
    (escaped : Escapes (ofScreens screens)) : Stalls document := by
  have json := isJson_of_screens json listed
  rcases escapes_ofScreens_iff.mp escaped with unwritable | ⟨outlines, outlined, fits, escaped⟩
  · exact .id listed ((unwritableId_iff json).mpr unwritable)
  · rcases escapes_mapM.mp escaped with ⟨before, screen, after, rfl, earlier, escaped⟩
    rcases mapM_succeeds_iff.mp ⟨_, outlined⟩ screen (by simp) with ⟨⟨id, components⟩, outline⟩
    have few : components.length ≤ maxComponents :=
      fits.components _ (List.mem_map_of_mem (mem_of_mapM outlined (by simp) outline))
    rcases (Screen.escapes_ofValue_iff (json screen (by simp)) outline few).mp escaped with
      ⟨front, entry, back, parts, readFront, unreadable⟩
    exact .component listed outlined fits earlier outline parts readFront unreadable

theorem escapes_of_stalls {document : Value} (json : document.isJson = true)
    (stalls : Stalls document) : Escapes (ofValue document) := by
  cases stalls with
  | id listed unwritable =>
      rw [ofValue_of_screens listed, escapes_ofScreens_iff]
      exact .inl ((unwritableId_iff (isJson_of_screens json listed)).mp unwritable)
  | component listed outlined fits read outline parts readFront unreadable =>
      have screen := isJson_of_screens json listed _ (List.mem_append_right _ List.mem_cons_self)
      have few := fits.components _ (List.mem_map_of_mem
        (mem_of_mapM outlined (List.mem_append_right _ List.mem_cons_self) outline))
      have escaped := (Screen.escapes_ofValue_iff screen outline few).mpr
        ⟨_, _, _, parts, readFront, unreadable⟩
      rw [ofValue_of_screens listed, escapes_ofScreens_iff]
      exact .inr ⟨_, outlined, fits, escapes_mapM.mpr ⟨_, _, _, rfl, read, escaped⟩⟩

theorem escapes_ofValue_iff_stalls {document : Value} (json : document.isJson = true) :
    Escapes (ofValue document) ↔ Stalls document := by
  constructor
  · intro escaped
    rcases (escapes_ofValue_iff json).mp escaped with ⟨screens, listed, escaped⟩
    exact stalls_of_escapes_ofScreens json listed escaped
  · exact escapes_of_stalls json

end Schema

end ScreenFlow
