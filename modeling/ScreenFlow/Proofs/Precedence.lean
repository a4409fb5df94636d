import ScreenFlow.Proofs.Grammar

namespace ScreenFlow

/-! The order in which a document is refused for several defects at once: the number of its screens
comes first, then the shape of the screens, then ids and sizes, and the components come last. No
content of a component decides anything before that. -/

open Outcome

/-! ## Misshapen screens -/

namespace Schema

variable {screens : List Value}

def FirstMisshapen (screens : List Value) (malformation : Malformation) : Prop :=
  ∃ before screen after, screens = before ++ screen :: after ∧
    (∀ earlier ∈ before, earlier.Shaped) ∧ screen.Misshapen malformation

theorem shaped_or_firstMisshapen (screens : List Value) :
    (∀ screen ∈ screens, screen.Shaped) ∨
      ∃ malformation, FirstMisshapen screens malformation := by
  induction screens with
  | nil => exact .inl (by simp)
  | cons screen screens induction =>
      rcases screen.shaped_or_misshapen with shaped | ⟨malformation, misshapen⟩
      · rcases induction with rest | ⟨malformation, before, first, after, rfl, earlier, misshapen⟩
        · exact .inl (List.forall_mem_cons.mpr ⟨shaped, rest⟩)
        · exact .inr ⟨malformation, screen :: before, first, after, rfl,
            List.forall_mem_cons.mpr ⟨shaped, earlier⟩, misshapen⟩
      · exact .inr ⟨malformation, [], screen, screens, rfl, by simp, misshapen⟩

theorem outlines_of_firstMisshapen {malformation : Malformation}
    (json : ∀ screen ∈ screens, screen.isJson = true)
    (answered : ¬ Escapes (screens.mapM Screen.outline))
    (misshapen : FirstMisshapen screens malformation) :
    screens.mapM Screen.outline = rejectShape malformation := by
  rcases misshapen with ⟨before, screen, after, rfl, shaped, misshapen⟩
  rw [List.mapM_append, List.mapM_cons] at answered ⊢
  have outlined := (intends_outlines shaped).eq_ok fun escaped =>
    answered (escapes_bind.mpr (.inl escaped))
  rw [outlined, ok_bind] at answered ⊢
  have inside := json screen (by simp)
  have identified : ¬ screen.Unidentified := by
    rw [← Screen.escapes_outline_iff inside]
    exact fun escaped => answered (escapes_bind.mpr (.inl (escapes_bind.mpr (.inl escaped))))
  rw [Screen.outline_of_misshapen inside misshapen identified]
  rfl

end Schema

/-! ## Places of components -/

/-- The document of a component, with the id of its screen and its position there. -/
structure Site where
  screen : Text
  position : Nat
  value : Value

def Site.read (site : Site) : Except Fault Component :=
  Component.ofValue (.text site.screen) (.int site.position) site.value

namespace Screen

variable {value : Value}

def sites (value : Value) : List Site :=
  (Sequence.indexed (componentsOf value)).map fun (position, component) =>
    ⟨idOf value, position, component⟩

theorem isJson_of_sites (json : value.isJson = true) :
    ∀ site ∈ sites value, site.value.isJson = true := by
  intro site member
  rcases List.mem_map.mp member with ⟨entry, inside, rfl⟩
  exact isJson_of_componentsOf json entry.2 (Sequence.snd_mem_of_mem_indexed inside)

theorem ofValue_of_fits (outlined : outline value = .ok (idOf value, componentsOf value))
    (few : (componentsOf value).length ≤ maxComponents) :
    ofValue value = ((sites value).mapM Site.read).map (Screen.mk (idOf value) (titleOf value)) := by
  rw [ofValue_of_outline outlined few, sites, List.mapM_map]
  rfl

end Screen

/-! ## Refused before the components -/

namespace Schema

variable {screens : List Value}

def sites (screens : List Value) : List Site := screens.flatMap Screen.sites

inductive EarlyRefusal (screens : List Value) : Rejection → Prop where
  | none (empty : screens = []) : EarlyRefusal screens .noScreens
  | many (many : maxScreens < screens.length) :
      EarlyRefusal screens (.tooManyScreens (.int maxScreens) (.int screens.length))
  | shape {malformation : Malformation} (few : screens.length ≤ maxScreens)
      (first : FirstMisshapen screens malformation) : EarlyRefusal screens (.malformed malformation)
  /-- All screens are well-formed, but an id is repeated or a screen has too many components. -/
  | layout {rejection : Rejection} (few : screens.length ≤ maxScreens)
      (shaped : ∀ screen ∈ screens, screen.Shaped)
      (first : Layout.FirstDefect (screens.map Screen.countOf) rejection) :
      EarlyRefusal screens rejection

theorem earlyRefusal_or_fits (screens : List Value) :
    (∃ rejection, EarlyRefusal screens rejection) ∨
      (∀ screen ∈ screens, screen.Shaped) ∧ Layout.Fits (screens.map Screen.countOf) := by
  by_cases empty : screens = []
  · exact .inl ⟨_, .none empty⟩
  · by_cases many : maxScreens < screens.length
    · exact .inl ⟨_, .many many⟩
    · have few := Nat.not_lt.mp many
      rcases shaped_or_firstMisshapen screens with shaped | ⟨malformation, first⟩
      · rcases Layout.sound_or_firstDefect (screens.map Screen.countOf) with
          sound | ⟨rejection, first⟩
        · exact .inr ⟨shaped, Layout.fits_iff.mpr ⟨by simpa using empty, by simpa using few, sound⟩⟩
        · exact .inl ⟨_, .layout few shaped first⟩
      · exact .inl ⟨_, .shape few first⟩

theorem not_earlyRefusal_of_fits {rejection : Rejection}
    (shaped : ∀ screen ∈ screens, screen.Shaped)
    (fits : Layout.Fits (screens.map Screen.countOf)) : ¬ EarlyRefusal screens rejection := by
  rcases Layout.fits_iff.mp fits with ⟨some, few, sound⟩
  rw [List.length_map] at few
  intro early
  cases early with
  | none empty => simp [empty] at some
  | many many => exact Nat.not_lt.mpr few many
  | shape _ first =>
      rcases first with ⟨before, screen, after, rfl, -, misshapen⟩
      exact Value.not_misshapen_of_shaped (shaped screen (by simp)) misshapen
  | layout _ _ first => exact Layout.not_firstDefect_of_sound sound first

theorem ofScreens_of_many (many : maxScreens < screens.length) :
    ofScreens screens = reject (.tooManyScreens (.int maxScreens) (.int screens.length)) := by
  have some : screens.length ≠ 0 := by omega
  rw [ofScreens, Layout.checkScreenCount_int, if_neg some, if_pos many]
  rfl

theorem ofScreens_of_few (some : screens ≠ []) (few : screens.length ≤ maxScreens) :
    ofScreens screens = ofOutlined screens := by
  have counted : Layout.checkScreenCount (.int screens.length) = .ok () :=
    Layout.checkScreenCount_eq_ok_iff.mpr ⟨by simpa using some, few⟩
  rw [ofScreens, counted, ok_bind]

theorem ofOutlined_of_shaped (shaped : ∀ screen ∈ screens, screen.Shaped)
    (answered : ¬ Escapes (screens.mapM Screen.outline)) :
    ofOutlined screens = Layout.check (Layout.ofCounts (screens.map Screen.countOf)) >>= fun _ =>
      (screens.mapM Screen.ofValue).map Schema.mk := by
  rw [ofOutlined_eq, (intends_outlines shaped).eq_ok answered, ok_bind, List.map_map]
  rfl

theorem ofScreens_of_earlyRefusal {rejection : Rejection}
    (json : ∀ screen ∈ screens, screen.isJson = true)
    (answered : screens.length ≤ maxScreens → ¬ Escapes (screens.mapM Screen.outline))
    (early : EarlyRefusal screens rejection) : ofScreens screens = reject rejection := by
  cases early with
  | none empty =>
      rw [empty]
      rfl
  | many many => exact ofScreens_of_many many
  | shape few first =>
      have some : screens ≠ [] := by
        rcases first with ⟨before, screen, after, rfl, -, -⟩
        simp
      rw [ofScreens_of_few some few, ofOutlined_eq,
        outlines_of_firstMisshapen json (answered few) first]
      rfl
  | layout few shaped first =>
      have some : screens ≠ [] := by simpa using first.ne_nil
      rw [ofScreens_of_few some few, ofOutlined_of_shaped shaped (answered few),
        Layout.check_of_firstDefect (by simpa using few) first]
      rfl

theorem ofScreens_eq_error_iff (shaped : ∀ screen ∈ screens, screen.Shaped)
    (answered : ¬ Escapes (screens.mapM Screen.outline))
    (fits : Layout.Fits (screens.map Screen.countOf)) {fault : Fault} :
    ofScreens screens = .error fault ↔ FailsFirst Site.read (sites screens) fault := by
  have some : screens ≠ [] := by simpa using fits.nonempty
  have few : screens.length ≤ maxScreens := by simpa using fits.screens
  have outlined := (intends_outlines shaped).eq_ok answered
  have each : ∀ screen ∈ screens, Screen.ofValue screen =
      ((Screen.sites screen).mapM Site.read).map
        (Screen.mk (Screen.idOf screen) (Screen.titleOf screen)) := by
    intro screen member
    rcases mapM_succeeds_iff.mp ⟨_, outlined⟩ screen member with ⟨outline, read⟩
    have intended := (Screen.intends_outline (shaped screen member)).eq_ok
      (not_escapes_of_succeeds ⟨_, read⟩)
    exact Screen.ofValue_of_fits intended (fits.components _ (List.mem_map_of_mem member))
  rw [ofScreens_of_few some few, ofOutlined_of_shaped shaped answered,
    Layout.check_eq_ok_iff.mpr fits, ok_bind, map_eq_error_iff, mapM_flatMap_eq_error_iff each,
    mapM_eq_error_iff, sites]

end Schema

/-! ## Documents with the same frame -/

namespace Value

inductive SameSize : Value → Value → Prop where
  | same (value : Value) : SameSize value value
  | lists {items items' : List Value} (length : items.length = items'.length) :
      SameSize (.list items) (.list items')

/-- Both screens are the same but for their titles and for what their components hold. -/
inductive SameFrame : Value → Value → Prop where
  | same (value : Value) : SameFrame value value
  | mapping {entries entries' : List (Value × Value)}
      (id : entry "id" entries = entry "id" entries')
      (components : SameSize (entry "components" entries) (entry "components" entries')) :
      SameFrame (.map entries) (.map entries')

end Value

theorem Screen.outline_of_sameFrame {value value' : Value} (same : value.SameFrame value') :
    (outline value).map (fun outline => (outline.1, outline.2.length)) =
      (outline value').map fun outline => (outline.1, outline.2.length) := by
  cases same with
  | same => rfl
  | @mapping entries entries' id components =>
      simp only [outline, Value.unroll, id]
      generalize Value.entry "components" entries = given at components
      generalize Value.entry "components" entries' = given' at components
      cases components with
      | same => rfl
      | @lists items items' length =>
          -- A list counts if it is not empty, so either both lists do or neither.
          have counts : (Value.list items).isGiven = (Value.list items').isGiven := by
            cases items <;> cases items' <;> first | rfl | simp at length
          rw [counts]
          split
          · cases (Value.entry "id" entries').render with
            | error fault => rfl
            | ok id =>
                by_cases present : (Value.list items').isGiven = true
                · simp [present, Except.map, bind, Except.bind, pure, Except.pure, length]
                · simp [present, Except.map, bind, Except.bind, pure, Except.pure]
          · rfl

namespace Schema

variable {screens others : List Value}

theorem ofScreens_of_sameFrame (same : List.Forall₂ Value.SameFrame screens others) :
    (∃ outlines, screens.mapM Screen.outline = .ok outlines ∧
      Layout.Fits (outlines.map fun outline => (outline.1, outline.2.length))) ∨
        ofScreens others = ofScreens screens := by
  have sizes : (screens.mapM Screen.outline).map (List.map fun outline =>
        (outline.1, outline.2.length)) =
      (others.mapM Screen.outline).map (List.map fun outline => (outline.1, outline.2.length)) := by
    rw [map_mapM, map_mapM]
    exact mapM_congr (same.imp fun _ _ => Screen.outline_of_sameFrame)
  rw [ofScreens, ofScreens, same.length_eq, ofOutlined_eq, ofOutlined_eq]
  -- Of the outlines, only the ids and sizes are checked, and in these the documents agree.
  cases outlined : screens.mapM Screen.outline with
  | error fault =>
      rw [outlined] at sizes
      cases outlined' : others.mapM Screen.outline with
      | error fault' =>
          rw [outlined'] at sizes
          exact .inr (by rw [error_bind, error_bind, Except.error.inj sizes])
      | ok outlines' =>
          rw [outlined'] at sizes
          cases sizes
  | ok outlines =>
      rw [outlined] at sizes
      rcases map_eq_ok.mp sizes.symm with ⟨outlines', outlined', counts⟩
      rw [outlined', ok_bind, ok_bind, counts]
      cases checked : Layout.check (Layout.ofCounts (outlines.map fun outline =>
          (outline.1, outline.2.length))) with
      | error fault => exact .inr rfl
      | ok _ => exact .inl ⟨outlines, rfl, Layout.check_eq_ok_iff.mp checked⟩

theorem ofScreens_of_unwritableId (unwritable : UnwritableId screens) :
    ofScreens screens = .error .badValue := by
  rcases unwritable with ⟨few, before, screen, after, rfl, outlined, unidentified⟩
  have failed : (before ++ screen :: after).mapM Screen.outline = .error .badValue :=
    mapM_eq_error_iff.mpr ⟨before, screen, after, rfl, outlined,
      Screen.outline_of_unidentified unidentified⟩
  rw [ofScreens_of_few (by simp) few, ofOutlined_eq, failed, error_bind]

end Schema

/-! ## Precedence -/

/-- Reading screens ends as the first check that they do not pass has it. -/
structure Precedence (screens : List Value) (outcome : Except Fault Schema) : Prop where
  early : ∀ rejection, Schema.EarlyRefusal screens rejection → outcome = reject rejection
  component : (∀ rejection, ¬ Schema.EarlyRefusal screens rejection) →
    ∀ fault, outcome = .error fault ↔ FailsFirst Site.read (Schema.sites screens) fault
  nameless : ∀ type screen position given,
    outcome = reject (.missingName type screen position given) →
      ∃ before site after entries, Schema.sites screens = before ++ site :: after ∧
        (∀ earlier ∈ before, Succeeds earlier.read) ∧
          site.read = reject (.missingName type screen position given) ∧
            site.value = .map entries ∧ (Value.entry "name" entries).isGiven = false ∧
              type = Value.entry "type" entries ∧ screen = .text site.screen ∧
                position = .int site.position
  frame : ∀ rejection, Schema.EarlyRefusal screens rejection →
    ∀ document others, document.screens? = some others →
      List.Forall₂ Value.SameFrame screens others → Schema.ofValue document = reject rejection

namespace Schema

variable {screens others : List Value}

theorem EarlyRefusal.ne_missingName {rejection : Rejection}
    (refusal : EarlyRefusal screens rejection) (type screen position : Value) (given : Text) :
    rejection ≠ .missingName type screen position given := by
  rintro rfl
  cases refusal with
  | layout _ _ first => cases first

theorem ofScreens_of_frame (json : ∀ screen ∈ screens, screen.isJson = true) {rejection : Rejection}
    (refusal : EarlyRefusal screens rejection)
    (same : List.Forall₂ Value.SameFrame screens others) : ofScreens others = ofScreens screens := by
  refine (ofScreens_of_sameFrame same).resolve_left fun given => ?_
  rcases given with ⟨outlines, outlined, fits⟩
  rcases outlines_eq_ok json outlined with ⟨shaped, counts⟩
  exact not_earlyRefusal_of_fits shaped (counts ▸ fits) refusal

theorem precedence_of_answered (json : ∀ screen ∈ screens, screen.isJson = true)
    (answered : screens.length ≤ maxScreens → ¬ Escapes (screens.mapM Screen.outline)) :
    Precedence screens (ofScreens screens) := by
  have early {rejection : Rejection} (early : EarlyRefusal screens rejection) :=
    ofScreens_of_earlyRefusal json answered early
  have component (late : ∀ rejection, ¬ EarlyRefusal screens rejection) {fault : Fault} :
      ofScreens screens = .error fault ↔ FailsFirst Site.read (sites screens) fault := by
    rcases (earlyRefusal_or_fits screens).resolve_left (not_exists.mpr late) with ⟨shaped, fits⟩
    have few : screens.length ≤ maxScreens := by simpa using fits.screens
    exact ofScreens_eq_error_iff shaped (answered few) fits
  refine
    { early := fun _ => early
      component := fun late _ => component late
      nameless := ?nameless
      frame := ?frame }
  case nameless =>
    intro type screen position given refused
    -- No early refusal reports a missing name, so it is a component that does.
    have late : ∀ rejection, ¬ EarlyRefusal screens rejection := by
      intro rejection refusal
      rw [early refusal] at refused
      exact refusal.ne_missingName _ _ _ _ (Fault.rejected.inj (Except.error.inj refused))
    rcases (component late).mp refused with ⟨before, site, after, split, earlier, failed⟩
    have inside : site ∈ sites screens := by simp [split]
    rcases List.mem_flatMap.mp inside with ⟨source, among, inside⟩
    have json := Screen.isJson_of_sites (json source among) site inside
    cases Component.refuses_ofValue json _ failed with
    | nameless mapping known nameless =>
        exact ⟨before, site, after, _, split, earlier, failed, mapping, nameless, known.symm, rfl,
          rfl⟩
  case frame =>
    intro rejection refusal document others listed same
    rw [ofValue_of_screens listed, ofScreens_of_frame json refusal same, early refusal]

/-- The checks of a document are made in this order, unless the id of the first screen without an
outline cannot be written: then that is the fault, whatever else the document holds. -/
theorem precedence_of_screens {document : Value} (json : document.isJson = true)
    (listed : document.screens? = some screens) :
    (¬ UnwritableId screens → Precedence screens (ofValue document)) ∧
      (UnwritableId screens → ofValue document = .error .badValue) := by
  have inside := isJson_of_screens json listed
  rw [ofValue_of_screens listed]
  refine ⟨fun writable => ?_, ofScreens_of_unwritableId⟩
  apply precedence_of_answered inside
  intro few escaped
  exact writable ((unwritableId_iff inside).mpr ⟨few, escaped⟩)

def documentOf (screens : List Value) : Value := .map [field "screens" (.list screens)]

def defectiveScreens : List Value :=
  [.map [field "id" (.text "a"), field "components" (.list [.map [field "type" (.text "input")]])],
    .map [field "id" (.text "a")], .int 5]

theorem defectiveScreens_precedence :
    (documentOf defectiveScreens).isJson = true ∧
      (documentOf defectiveScreens).screens? = some defectiveScreens ∧
        Precedence defectiveScreens (ofValue (documentOf defectiveScreens)) := by
  have json : (documentOf defectiveScreens).isJson = true := by decide +kernel
  have refused : ofValue (documentOf defectiveScreens) = rejectShape (.screenKind "int") := by
    decide +kernel
  refine ⟨json, rfl, (precedence_of_screens json rfl).1 fun unwritable => ?_⟩
  have failed := (precedence_of_screens json rfl).2 unwritable
  rw [refused] at failed
  cases failed

def hugeScreens : List Value := [.map [field "id" (.int (.ofNat (Nat.pow 10 4300)))], .int 5]

theorem hugeScreens_not_precedence :
    (documentOf hugeScreens).isJson = true ∧
      (documentOf hugeScreens).screens? = some hugeScreens ∧
        ofValue (documentOf hugeScreens) = .error .badValue ∧
          ¬ Precedence hugeScreens (ofValue (documentOf hugeScreens)) := by
  have failed : ofValue (documentOf hugeScreens) = .error .badValue := by decide +kernel
  refine ⟨rfl, rfl, failed, fun precedence => ?_⟩
  have shaped (number : Int) (given : number ≠ 0) :
      (Value.map [field "id" (.int number)]).Shaped :=
    .intro (by simpa [Value.entry, Value.lookup?, field, Value.text?, Value.isGiven] using given)
      (by simp [Value.entry, Value.lookup?, field, Value.text?, Value.isGiven])
  have first : FirstMisshapen hugeScreens (.screenKind "int") :=
    ⟨[_], .int 5, [], rfl,
      List.forall_mem_singleton.mpr (shaped _ (by decide +kernel)), .kind (by simp)⟩
  have refused := precedence.early _ (.shape (by decide) first)
  rw [failed] at refused
  cases refused

end Schema

end ScreenFlow
