import ScreenFlow.Proofs.Stalling

namespace ScreenFlow

/-! The grammar of documents. Values that do not count stand for what is absent, ids and options count
as their texts, and everything else is kept as it is. A document that describes a form is read as
that form, and any other one is refused. -/

open Outcome

/-! ## Components -/

namespace Value

/-- Options in a document: null for none, or a list of values that count as their texts. -/
inductive DescribesOptions : Value → Value → Prop where
  | absent : DescribesOptions .null .null
  | list (options : List Value) :
      DescribesOptions (.list options) (.list (options.map fun option => .text option.display))

/-- The document of a component: a mapping with the word for a type, and a name if it is no display
text. -/
inductive DescribesComponent : Value → Component → Prop where
  | static {entries : List (Value × Value)} {type : StaticType}
      (known : entry "type" entries = .text type.word) :
      DescribesComponent (.map entries) (.static type (entry "text" entries)
        (if (entry "name" entries).isGiven then entry "name" entries else .null))
  | input {entries : List (Value × Value)} {type : InputType}
      (known : entry "type" entries = .text type.word)
      (named : (entry "name" entries).isGiven = true) :
      DescribesComponent (.map entries) (.input type (entry "name" entries) (entry "label" entries)
        (.bool (entry "required" entries).isGiven))
  | choice {entries : List (Value × Value)} {type : ChoiceType} {options : Value}
      (known : entry "type" entries = .text type.word)
      (named : (entry "name" entries).isGiven = true)
      (offered : DescribesOptions (entry "options" entries) options) :
      DescribesComponent (.map entries) (.choice type (entry "name" entries) (entry "label" entries)
        (.bool (entry "required" entries).isGiven) options)

end Value

theorem ComponentType.ofValue?_eq_some_iff {value : Value} {type : ComponentType} :
    ofValue? value = some type ↔ value = .text type.word := by
  constructor
  · intro found
    cases value with
    | text word =>
        have same := List.find?_some found
        rw [beq_iff_eq] at same
        rw [same]
    | _ => cases found
  · intro same
    rw [same]
    exact ofWord?_word type

namespace Component

variable {screen position value : Value} {component : Component}

theorem intends_texts (options : List Value) :
    Intends (options.mapM fun option => option.render.map Value.text)
      (options.map fun option => .text option.display) := by
  apply intends_mapM
  rw [List.forall₂_map_right_iff, List.forall₂_same]
  exact fun option _ => intends_map (intends_render option)

theorem intends_readOptions {name options given : Value}
    (describes : options.DescribesOptions given) : Intends (readOptions name options) given := by
  cases describes with
  | absent => exact intends_ok Value.null
  | list options => exact intends_bind (intends_texts options) (intends_ok _)

theorem describes_of_readOptions {name options given : Value} (json : options.isJson = true)
    (read : readOptions name options = .ok given) : options.DescribesOptions given := by
  rw [readOptions, Value.unroll_of_isJson json] at read
  split at read
  · rw [← pure_eq_ok.mp read]
    exact .absent
  · next options =>
      rcases bind_eq_ok.mp read with ⟨texts, rendered, read⟩
      have intended := (intends_texts options).eq_ok (not_escapes_of_succeeds ⟨_, rendered⟩)
      rw [rendered, Except.ok.injEq] at intended
      rw [← pure_eq_ok.mp read, intended]
      exact .list options
  · rcases bind_eq_ok.mp read with ⟨_, -, read⟩
    cases read

theorem intends_ofValue (describes : value.DescribesComponent component) :
    Intends (ofValue screen position value) component := by
  cases describes with
  | @static entries type known =>
      have found := (@ComponentType.ofValue?_eq_some_iff _ (.static type)).mpr known
      simp only [ofValue, Value.unroll, found]
      exact intends_ok _
  | @input entries type known named =>
      have found := (@ComponentType.ofValue?_eq_some_iff _ (.input type)).mpr known
      simp only [ofValue, Value.unroll, found, named, if_true]
      exact intends_ok _
  | @choice entries type options known named offered =>
      have found := (@ComponentType.ofValue?_eq_some_iff _ (.choice type)).mpr known
      simp only [ofValue, Value.unroll, found, named, if_true]
      exact intends_bind (intends_readOptions offered) (intends_ok _)

theorem describes_of_read (json : value.isJson = true)
    (read : ofValue screen position value = .ok component) : value.DescribesComponent component := by
  cases value with
  | map entries =>
      have options := Value.isJson_entry "options" json
      simp only [ofValue, Value.unroll] at read
      split at read
      · rcases bind_eq_ok.mp read with ⟨_, -, read⟩
        cases read
      · next type known =>
          rw [← pure_eq_ok.mp read]
          exact .static (ComponentType.ofValue?_eq_some_iff.mp known)
      · next type known =>
          split at read
          · next named =>
              rw [← pure_eq_ok.mp read]
              exact .input (ComponentType.ofValue?_eq_some_iff.mp known) named
          · exact absurd read not_rejectNameless
      · next type known =>
          split at read
          · next named =>
              rcases bind_eq_ok.mp read with ⟨given, offered, read⟩
              rw [← pure_eq_ok.mp read]
              exact .choice (ComponentType.ofValue?_eq_some_iff.mp known) named
                (describes_of_readOptions options offered)
          · exact absurd read not_rejectNameless
  | null | bool | int | float | text | list => cases read
  | _ => simp [Value.isJson] at json

/-- The rejections of a component: its shape, or the missing name of a field, with its place. -/
inductive Refusal (screen position value : Value) : Rejection → Prop where
  | shape (malformation : Malformation) : Refusal screen position value (.malformed malformation)
  | nameless {entries : List (Value × Value)} {type : ComponentType} {given : Text}
      (mapping : value = .map entries)
      (known : Value.entry "type" entries = .text type.word)
      (nameless : (Value.entry "name" entries).isGiven = false) :
      Refusal screen position value (.missingName (.text type.word) screen position given)

theorem refuses_readOptions {name options : Value} :
    RefusesOnly (Refusal screen position value) (readOptions name options) := by
  rw [readOptions]
  split
  · exact refusesOnly_ok Value.null
  · apply refusesOnly_of_unrejected
    refine unrejected_bind (unrejected_mapM fun option _ => ?_) fun _ _ => unrejected_ok _
    exact unrejected_map (unrejected_render option)
  · exact refusesOnly_bind (refusesOnly_of_unrejected (unrejected_render name)) fun _ _ =>
      refusesOnly_reject (.shape _)

theorem refuses_rejectNameless {type : ComponentType} {entries : List (Value × Value)}
    (mapping : value = .map entries) (known : Value.entry "type" entries = .text type.word)
    (nameless : (Value.entry "name" entries).isGiven = false) :
    RefusesOnly (Refusal screen position value)
      (rejectNameless type screen position entries : Except Fault Component) := by
  have written := Json.unrejected_write .sorted (.map entries)
  exact refusesOnly_bind (refusesOnly_of_unrejected written) fun _ _ =>
    refusesOnly_reject (.nameless mapping known nameless)

theorem refuses_ofValue (json : value.isJson = true) :
    RefusesOnly (Refusal screen position value) (ofValue screen position value) := by
  rw [ofValue, Value.unroll_of_isJson json]
  split
  · next entries =>
      dsimp only
      split
      · exact refusesOnly_bind (refusesOnly_of_unrejected (unrejected_renderInner _)) fun _ _ =>
          refusesOnly_reject (.shape _)
      · exact refusesOnly_ok _
      · next type known =>
          split
          · exact refusesOnly_ok _
          · next nameless =>
              exact refuses_rejectNameless rfl (ComponentType.ofValue?_eq_some_iff.mp known)
                (Bool.eq_false_iff.mpr nameless)
      · next type known =>
          split
          · exact refusesOnly_bind refuses_readOptions fun _ _ => refusesOnly_ok _
          · next nameless =>
              exact refuses_rejectNameless rfl (ComponentType.ofValue?_eq_some_iff.mp known)
                (Bool.eq_false_iff.mpr nameless)
  · exact refusesOnly_reject (.shape _)

end Component

/-! ## Screens -/

/-- The document of a screen. Its title is kept as it is, and empty if there is none. -/
structure Value.DescribesScreen (value : Value) (screen : Screen) : Prop where
  shaped : value.Shaped
  id : screen.id = Screen.idOf value
  title : screen.title = (value.member? "title").getD (.text "")
  few : (Screen.componentsOf value).length ≤ maxComponents
  components :
    List.Forall₂ Value.DescribesComponent (Screen.componentsOf value) screen.components

namespace Screen

variable {value : Value} {screen : Screen}

theorem describes_countOf (describes : value.DescribesScreen screen) :
    countOf value = (screen.id, screen.components.length) := by
  rw [countOf, describes.id, describes.components.length_eq]

theorem intends_ofValue (describes : value.DescribesScreen screen) :
    Intends (ofValue value) screen := by
  have each := describes.components
  rw [← Sequence.map_snd_indexed (componentsOf value), List.forall₂_map_left_iff] at each
  have same : Screen.mk (idOf value) (titleOf value) screen.components = screen := by
    have title : titleOf value = (value.member? "title").getD (.text "") := by
      rcases describes.shaped with ⟨-, -⟩
      rfl
    rw [title, ← describes.title, ← describes.id]
  rcases intends_outline describes.shaped with outlined | escaped
  · rw [ofValue_of_outline outlined describes.few, ← same]
    exact intends_map (intends_mapM (each.imp fun _ _ describes =>
      Component.intends_ofValue describes))
  · exact .inr (escapes_bind.mpr (.inl escaped))

theorem describes_of_read (json : value.isJson = true) (read : ofValue value = .ok screen) :
    value.DescribesScreen screen := by
  rcases bind_eq_ok.mp read with ⟨outlined, outline, read⟩
  rcases bind_eq_ok.mp read with ⟨_, counted, read⟩
  rcases bind_eq_ok.mp read with ⟨parts, built, read⟩
  rcases pure_eq_ok.mp read with rfl
  have inside := isJson_of_outline json outline
  rcases outline_eq_ok json outline with ⟨shaped, rfl⟩
  refine ⟨shaped, rfl, ?_, ?_, ?_⟩
  · rcases shaped with ⟨-, -⟩
    rfl
  · rw [Layout.checkComponentCount_int] at counted
    split at counted
    · cases counted
    · next few => exact Nat.not_lt.mp few
  · rw [Component.ofValues_eq_mapM] at built
    rw [← Sequence.map_snd_indexed (componentsOf value), List.forall₂_map_left_iff]
    apply forall₂_of_mapM built
    intro entry member component made
    exact Component.describes_of_read
      (inside entry.2 (Sequence.snd_mem_of_mem_indexed member)) made

end Screen

/-! ## Forms -/

/-- The document of a form: a mapping with a list of screens, which are some but not too many and
whose ids differ as texts. -/
structure Value.DescribesSchema (document : Value) (schema : Schema) : Prop where
  screens : ∃ screens, document.screens? = some screens ∧
    List.Forall₂ Value.DescribesScreen screens schema.screens
  nonempty : schema.screens ≠ []
  few : schema.screens.length ≤ maxScreens
  distinct : (schema.screens.map Screen.id).Nodup

namespace Schema

variable {document : Value} {schema : Schema} {screens : List Value}

theorem counts_of_describes (each : List.Forall₂ Value.DescribesScreen screens schema.screens) :
    screens.map Screen.countOf = schema.counts := by
  rw [counts, ← List.forall₂_eq_eq_eq, List.forall₂_map_left_iff, List.forall₂_map_right_iff]
  exact each.imp fun _ _ describes => Screen.describes_countOf describes

theorem fits_of_describes (describes : document.DescribesSchema schema) :
    Layout.Fits schema.counts := by
  rcases describes.screens with ⟨screens, -, each⟩
  have ids : schema.counts.map Prod.fst = schema.screens.map Screen.id := by
    simp [counts]
  refine ⟨by simpa [counts] using describes.nonempty, by simpa [counts] using describes.few,
    ids ▸ describes.distinct, ?_⟩
  have small := ((List.forall₂_and_left _ _).mp
    (each.imp fun _ _ describes => ⟨describes.few, describes⟩)).1
  rw [← counts_of_describes each]
  intro entry member
  rcases List.mem_map.mp member with ⟨screen, among, rfl⟩
  exact small screen among

theorem intends_ofValue (describes : document.DescribesSchema schema) :
    Intends (ofValue document) schema := by
  rcases describes.screens with ⟨screens, listed, each⟩
  have fits := fits_of_describes describes
  have lengths := each.length_eq
  have counted : Layout.checkScreenCount (.int screens.length) = .ok () :=
    Layout.checkScreenCount_eq_ok_iff.mpr
      ⟨by simpa [lengths] using describes.nonempty, lengths ▸ describes.few⟩
  have shaped := ((List.forall₂_and_left _ _).mp
    (each.imp fun _ _ describes => ⟨describes.shaped, describes⟩)).1
  have built : Intends (screens.mapM Screen.ofValue) schema.screens :=
    intends_mapM (each.imp fun _ _ describes => Screen.intends_ofValue describes)
  have checked : Layout.check (Layout.ofCounts (screens.map Screen.countOf)) = .ok () := by
    rw [counts_of_describes each]
    exact Layout.check_eq_ok_iff.mpr fits
  rw [ofValue_of_screens listed, ofScreens, counted, ofOutlined_eq]
  refine intends_bind (intends_ok ()) (intends_bind (intends_outlines shaped) ?_)
  rw [List.map_map]
  exact intends_bind (.inl checked) (intends_map built)

theorem describes_of_read (json : document.isJson = true) (read : ofValue document = .ok schema) :
    document.DescribesSchema schema := by
  have fits := fits_of_read read
  cases listed : document.screens? with
  | none =>
      rcases ofValue_of_no_screens json listed with ⟨malformation, refused⟩
      rw [refused] at read
      cases read
  | some screens =>
      have inside := isJson_of_screens json listed
      rw [ofValue_of_screens listed, ofScreens, ofOutlined_eq] at read
      rcases bind_eq_ok.mp read with ⟨_, -, read⟩
      rcases bind_eq_ok.mp read with ⟨_, -, read⟩
      rcases bind_eq_ok.mp read with ⟨_, -, read⟩
      rcases map_eq_ok.mp read with ⟨built, made, rfl⟩
      have each : List.Forall₂ Value.DescribesScreen screens built :=
        forall₂_of_mapM made fun screen member _ => Screen.describes_of_read (inside screen member)
      have ids : counts ⟨built⟩ = built.map fun screen => (screen.id, screen.components.length) :=
        rfl
      refine ⟨⟨screens, listed, each⟩, ?_, ?_, ?_⟩
      · simpa [ids] using fits.nonempty
      · simpa [ids] using fits.screens
      · have distinct := fits.distinct
        rwa [ids, List.map_map] at distinct

end Schema

/-! ## Refused documents -/

def readingKinds : List String :=
  ["SchemaFormatError", "EmptySchema", "SchemaLimitExceeded", "ScreenIdCollision",
    "MissingComponentName"]

def RefusesReading (step : Except Fault α) : Prop :=
  RefusesOnly (fun rejection => rejection.kind ∈ readingKinds) step

theorem refusesReading_rejectShape (malformation : Malformation) :
    RefusesReading (rejectShape malformation : Except Fault α) :=
  refusesOnly_reject (by simp [readingKinds, Rejection.kind])

theorem Component.refusesReading_ofValue {screen position value : Value}
    (json : value.isJson = true) : RefusesReading (ofValue screen position value) := by
  refine (refuses_ofValue json).imp fun rejection refusal => ?_
  cases refusal <;> simp [readingKinds, Rejection.kind]

theorem Layout.refusesReading_checkScreenCount (count : Nat) :
    RefusesReading (checkScreenCount (.int count)) := by
  rw [checkScreenCount_int]
  split_ifs
  · exact refusesOnly_reject (by simp [readingKinds, Rejection.kind])
  · exact refusesOnly_reject (by simp [readingKinds, Rejection.kind])
  · exact refusesOnly_ok ()

theorem Layout.refusesReading_checkComponentCount (screen : Value) (count : Nat) :
    RefusesReading (checkComponentCount screen (.int count)) := by
  rw [checkComponentCount_int]
  split_ifs
  · exact refusesOnly_reject (by simp [readingKinds, Rejection.kind])
  · exact refusesOnly_ok ()

theorem Layout.refusesReading_check (counts : List (Text × Nat)) :
    RefusesReading (check (ofCounts counts)) := by
  intro rejection failed
  rcases check_eq_error failed with ⟨_, same, cause⟩
  rcases Fault.rejected.inj same with rfl
  rcases cause with rfl | rfl | defect
  · simp [readingKinds, Rejection.kind]
  · simp [readingKinds, Rejection.kind]
  · cases defect <;> simp [readingKinds, Rejection.kind]

namespace Screen

variable {value : Value}

theorem refusesReading_outline (json : value.isJson = true) : RefusesReading (outline value) := by
  rcases outline_cases json with ⟨-, outline⟩ | ⟨malformation, -, outline⟩ | ⟨-, outline⟩
  · rw [outline]
    exact refusesOnly_ok _
  · rw [outline]
    exact refusesReading_rejectShape malformation
  · rw [outline]
    exact refusesOnly_of_unrejected (unrejected_error (by simp))

theorem refusesReading_ofValue (json : value.isJson = true) : RefusesReading (ofValue value) := by
  refine refusesOnly_bind (refusesReading_outline json) fun outlined read => ?_
  have inside := isJson_of_outline json read
  refine refusesOnly_bind (Layout.refusesReading_checkComponentCount _ _) fun _ _ => ?_
  refine refusesOnly_bind ?_ fun _ _ => refusesOnly_ok _
  rw [Component.ofValues_eq_mapM]
  apply refusesOnly_mapM
  intro entry member
  exact Component.refusesReading_ofValue (inside entry.2 (Sequence.snd_mem_of_mem_indexed member))

end Screen

namespace Schema

variable {document : Value}

theorem refusesReading_ofValue (json : document.isJson = true) :
    RefusesReading (ofValue document) := by
  cases listed : document.screens? with
  | none =>
      rcases ofValue_of_no_screens json listed with ⟨malformation, refused⟩
      rw [refused]
      exact refusesReading_rejectShape malformation
  | some screens =>
      have inside := isJson_of_screens json listed
      rw [ofValue_of_screens listed, ofScreens, ofOutlined_eq]
      refine refusesOnly_bind (Layout.refusesReading_checkScreenCount _) fun _ _ => ?_
      refine refusesOnly_bind (refusesOnly_mapM fun screen member =>
        Screen.refusesReading_outline (inside screen member)) fun _ _ => ?_
      refine refusesOnly_bind (Layout.refusesReading_check _) fun _ _ => ?_
      refine refusesOnly_map (refusesOnly_mapM fun screen member => ?_)
      exact Screen.refusesReading_ofValue (inside screen member)

/-- A document is read as the form that it describes, and is refused if it describes none. -/
structure Conforms (document : Value) : Prop where
  reads : ∀ schema, ofValue document = .ok schema ↔ document.DescribesSchema schema
  refuses : (∀ schema, ¬ document.DescribesSchema schema) →
    ∃ rejection, ofValue document = reject rejection ∧ rejection.kind ∈ readingKinds

theorem not_conforms_of_escapes (escaped : Escapes (ofValue document)) : ¬ Conforms document := by
  intro conforms
  by_cases described : ∃ schema, document.DescribesSchema schema
  · rcases described with ⟨schema, describes⟩
    exact not_escapes_of_succeeds ⟨schema, (conforms.reads schema).mpr describes⟩ escaped
  · rcases conforms.refuses (not_exists.mp described) with ⟨rejection, refused, -⟩
    rw [refused] at escaped
    exact not_escapes_reject rejection escaped

/-- Reading keeps to the grammar, except for documents of which a part that is needed as a text
cannot be written. -/
theorem conforms_iff_not_stalls (json : document.isJson = true) :
    Conforms document ↔ ¬ Stalls document := by
  rw [← escapes_ofValue_iff_stalls json]
  refine ⟨fun conforms escaped => not_conforms_of_escapes escaped conforms, fun answered => ?_⟩
  refine ⟨fun schema => ⟨describes_of_read json, fun describes => ?_⟩, fun undescribed => ?_⟩
  · exact (intends_ofValue describes).eq_ok answered
  · rcases answers_iff.mpr answered with ⟨schema, read⟩ | ⟨rejection, refused⟩
    · exact absurd (describes_of_read json read) (undescribed schema)
    · exact ⟨rejection, refused, refusesReading_ofValue json rejection refused⟩

/-- A form with a number for an id, options that are no texts, and parts that do not count. -/
def looseDocument : Value :=
  .map [field "screens" (.list [
    .map [field "id" (.int 7), field "components" (.list [
      .map [field "type" (.text "radio"), field "name" (.text "n"),
        field "options" (.list [.int 1, .bool true])],
      .map [field "type" (.text "text"), field "name" (.int 0)]])],
    .map [field "id" (.text "b"), field "components" (.bool false)]])]

def looseSchema : Schema := ⟨[
  ⟨"7", .text "", [
    .choice .radio (.text "n") .null (.bool false) (.list [.text "1", .text "True"]),
    .static .text .null .null]⟩,
  ⟨"b", .text "", []⟩]⟩

theorem looseDocument_describes :
    looseDocument.isJson = true ∧ looseDocument.DescribesSchema looseSchema := by
  have json : looseDocument.isJson = true := by decide +kernel
  have read : ofValue looseDocument = .ok looseSchema := by decide +kernel
  have answered : ¬ Stalls looseDocument :=
    (escapes_ofValue_iff_stalls json).not.mp (not_escapes_of_succeeds ⟨_, read⟩)
  exact ⟨json, (((conforms_iff_not_stalls json).mpr answered).reads _).mp read⟩

def hugeDocument : Value :=
  .map [field "screens" (.list [.map [field "id" (.int (.ofNat (Nat.pow 10 4300)))]])]

theorem hugeDocument_not_conforms : hugeDocument.isJson = true ∧
    ofValue hugeDocument = .error .badValue ∧ ¬ Conforms hugeDocument := by
  have failed : ofValue hugeDocument = .error .badValue := by decide +kernel
  exact ⟨rfl, failed, not_conforms_of_escapes ⟨.badValue, failed, by simp⟩⟩

end Schema

end ScreenFlow
