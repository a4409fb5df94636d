import ScreenFlow.Proofs.Page
import ScreenFlow.Proofs.Reading
import ScreenFlow.Proofs.Writing

namespace ScreenFlow

/-! What a document shows of its screens before any component is read: their ids and the lists of
their components. A screen that shows less is refused for its shape, unless its id has no text. -/

open Outcome

/-! ## Screens -/

namespace Value

/-- The document of a screen that is well-formed apart from its components: a mapping with an id that
counts, and with a list of components if they count. -/
inductive Shaped : Value → Prop where
  | intro {entries : List (Value × Value)} (identified : (entry "id" entries).isGiven = true)
      (listed : (entry "components" entries).isGiven = true →
        ∃ components, entry "components" entries = .list components) : Shaped (.map entries)

inductive Misshapen : Value → Malformation → Prop where
  | kind {value : Value} (unmapped : ∀ entries, value ≠ .map entries) :
      Misshapen value (.screenKind value.kindName)
  | id {entries : List (Value × Value)} (unidentified : (entry "id" entries).isGiven = false) :
      Misshapen (.map entries) .screenWithoutId
  | components {entries : List (Value × Value)}
      (identified : (entry "id" entries).isGiven = true)
      (present : (entry "components" entries).isGiven = true)
      (unlisted : ∀ components, entry "components" entries ≠ .list components) :
      Misshapen (.map entries) (.componentsKind (entry "id" entries).display)

def Unidentified (value : Value) : Prop :=
  ∃ entries, value = .map entries ∧ (entry "id" entries).isGiven = true ∧
    (entry "id" entries).isWritable = false

theorem shaped_or_misshapen (value : Value) :
    value.Shaped ∨ ∃ malformation, value.Misshapen malformation := by
  cases value with
  | map entries =>
      by_cases identified : (entry "id" entries).isGiven = true
      · by_cases listed : (entry "components" entries).isGiven = true →
            ∃ components, entry "components" entries = .list components
        · exact .inl (.intro identified listed)
        · rw [Classical.not_imp, not_exists] at listed
          exact .inr ⟨_, .components identified listed.1 listed.2⟩
      · exact .inr ⟨_, .id (Bool.eq_false_iff.mpr identified)⟩
  | _ => exact .inr ⟨_, .kind (by simp)⟩

theorem not_misshapen_of_shaped {value : Value} {malformation : Malformation}
    (shaped : value.Shaped) : ¬ value.Misshapen malformation := by
  rcases shaped with ⟨identified, listed⟩
  intro misshapen
  cases misshapen with
  | kind unmapped => exact unmapped _ rfl
  | id unidentified => simp [identified] at unidentified
  | components _ present unlisted =>
      rcases listed present with ⟨components, there⟩
      exact unlisted components there

end Value

namespace Screen

variable {value : Value}

def idOf (value : Value) : Text := ((value.member? "id").getD .null).display

def componentsOf (value : Value) : List Value :=
  ((value.member? "components").bind Value.items?).getD []

def countOf (value : Value) : Text × Nat := (idOf value, (componentsOf value).length)

theorem idOf_map (entries : List (Value × Value)) :
    idOf (.map entries) = (Value.entry "id" entries).display := rfl

theorem componentsOf_map (entries : List (Value × Value)) :
    componentsOf (.map entries) = ((Value.entry "components" entries).items?).getD [] := by
  rw [componentsOf, Value.member?, Value.entry]
  cases Value.lookup? "components" entries <;> rfl

theorem items?_of_not_given {components : Value} (absent : components.isGiven = false) :
    components.items?.getD [] = [] := by
  cases components with
  | list items => simpa [Value.isGiven, Value.items?] using absent
  | _ => rfl

theorem isJson_of_componentsOf (json : value.isJson = true) :
    ∀ component ∈ componentsOf value, component.isJson = true := by
  intro component member
  cases value with
  | map entries =>
      have listed := Value.isJson_entry "components" json
      rw [componentsOf_map] at member
      cases there : Value.entry "components" entries with
      | list items =>
          rw [there] at member listed
          exact Value.areJson_iff.mp listed component member
      | _ => simp [there, Value.items?] at member
  | _ => simp [componentsOf, Value.member?] at member

/-! ### Outlines -/

theorem render_of_identified {entries : List (Value × Value)}
    (given : (Value.entry "id" entries).isGiven = true)
    (identified : ¬ (Value.map entries).Unidentified) :
    (Value.entry "id" entries).render = .ok (Value.entry "id" entries).display := by
  apply (intends_render _).eq_ok
  rw [escapes_render_iff]
  exact fun unwritable => identified ⟨entries, rfl, given, unwritable⟩

theorem outline_of_unidentified (unidentified : value.Unidentified) :
    outline value = .error .badValue := by
  rcases unidentified with ⟨entries, rfl, given, unwritable⟩
  simp [outline, Value.unroll, given, Value.render, unwritable, error_bind]

theorem outline_of_shaped (shaped : value.Shaped) (identified : ¬ value.Unidentified) :
    outline value = .ok (idOf value, componentsOf value) := by
  rcases shaped with @⟨entries, given, listed⟩
  rw [idOf_map, componentsOf_map]
  simp only [outline, Value.unroll, given, if_true, render_of_identified given identified, ok_bind]
  split
  · next present =>
      rcases listed present with ⟨components, there⟩
      rw [there]
      rfl
  · next absent =>
      rw [items?_of_not_given (Bool.eq_false_iff.mpr absent)]
      rfl

theorem outline_of_misshapen {malformation : Malformation} (json : value.isJson = true)
    (misshapen : value.Misshapen malformation) (identified : ¬ value.Unidentified) :
    outline value = rejectShape malformation := by
  rw [outline, Value.unroll_of_isJson json]
  cases misshapen with
  | kind unmapped =>
      split
      · exact absurd rfl (unmapped _)
      · rfl
  | id unidentified => simp [unidentified]
  | @components entries given present unlisted =>
      have components := Value.isJson_entry "components" json
      simp only [given, if_true, render_of_identified given identified, ok_bind, present,
        Value.unroll_of_isJson components]

theorem outline_cases (json : value.isJson = true) :
    (value.Shaped ∧ outline value = .ok (idOf value, componentsOf value)) ∨
      (∃ malformation, value.Misshapen malformation ∧ outline value = rejectShape malformation) ∨
        value.Unidentified ∧ outline value = .error .badValue := by
  by_cases identified : value.Unidentified
  · exact .inr (.inr ⟨identified, outline_of_unidentified identified⟩)
  · rcases value.shaped_or_misshapen with shaped | ⟨malformation, misshapen⟩
    · exact .inl ⟨shaped, outline_of_shaped shaped identified⟩
    · exact .inr (.inl ⟨malformation, misshapen, outline_of_misshapen json misshapen identified⟩)

theorem intends_outline (shaped : value.Shaped) :
    Intends (outline value) (idOf value, componentsOf value) := by
  by_cases identified : value.Unidentified
  · exact .inr ⟨.badValue, outline_of_unidentified identified, by simp⟩
  · exact .inl (outline_of_shaped shaped identified)

theorem outline_eq_ok (json : value.isJson = true) {outlined : Text × List Value}
    (read : outline value = .ok outlined) :
    value.Shaped ∧ outlined = (idOf value, componentsOf value) := by
  rcases outline_cases json with ⟨shaped, outline⟩ | ⟨_, -, outline⟩ | ⟨-, outline⟩
  · rw [read, Except.ok.injEq] at outline
    exact ⟨shaped, outline⟩
  · rw [read] at outline
    cases outline
  · rw [read] at outline
    cases outline

theorem escapes_outline_iff (json : value.isJson = true) :
    Escapes (outline value) ↔ value.Unidentified := by
  constructor
  · intro escaped
    rcases outline_cases json with ⟨-, outline⟩ | ⟨malformation, -, outline⟩ | ⟨unidentified, -⟩
    · exact absurd (outline ▸ escaped) (not_escapes_ok _)
    · exact absurd (outline ▸ escaped) (not_escapes_rejectShape malformation)
    · exact unidentified
  · exact fun unidentified => ⟨.badValue, outline_of_unidentified unidentified, by simp⟩

theorem isJson_of_outline {id : Text} {components : List Value}
    (json : value.isJson = true) (outlined : outline value = .ok (id, components)) :
    ∀ component ∈ components, component.isJson = true := by
  rcases Prod.mk.inj (outline_eq_ok json outlined).2 with ⟨-, rfl⟩
  exact isJson_of_componentsOf json

theorem ofValue_of_outline {id : Text} {components : List Value}
    (outlined : outline value = .ok (id, components)) (few : components.length ≤ maxComponents) :
    ofValue value = ((Sequence.indexed components).mapM fun entry =>
      Component.ofValue (.text id) (.int entry.1) entry.2).map (Screen.mk id (titleOf value)) := by
  have counted : Layout.checkComponentCount (.text id) (.int components.length) = .ok () := by
    rw [Layout.checkComponentCount_int, if_neg (Nat.not_lt.mpr few)]
  simp only [ofValue, outlined, counted, Component.ofValues_eq_mapM, bind, Except.bind]
  rfl

end Screen

/-! ## Forms -/

namespace Value

/-- The screens of the document of a form. -/
def screens? (document : Value) : Option (List Value) :=
  (document.member? "screens").bind Value.items?

end Value

namespace Schema

def ofOutlined (screens : List Value) : Except Fault Schema := do
  let outlines ← screens.mapM Screen.outline
  Layout.check (outlines.map fun (id, components) => (.text id, .int components.length))
  return ⟨← screens.mapM Screen.ofValue⟩

def ofScreens (screens : List Value) : Except Fault Schema := do
  Layout.checkScreenCount (.int screens.length)
  ofOutlined screens

theorem screens?_eq_some_iff {document : Value} {screens : List Value} :
    document.screens? = some screens ↔
      ∃ entries, document = .map entries ∧
        Value.lookup? "screens" entries = some (.list screens) := by
  rw [Value.screens?, Option.bind_eq_some_iff]
  constructor
  · intro given
    rcases given with ⟨listed, found, items⟩
    cases document <;> try cases found
    cases listed <;> cases items
    exact ⟨_, rfl, found⟩
  · intro given
    rcases given with ⟨entries, rfl, found⟩
    exact ⟨.list screens, found, rfl⟩

theorem isJson_of_screens {document : Value} {screens : List Value}
    (json : document.isJson = true) (listed : document.screens? = some screens) :
    ∀ screen ∈ screens, screen.isJson = true := by
  rcases screens?_eq_some_iff.mp listed with ⟨entries, rfl, found⟩
  have list := Value.isJson_entry "screens" json
  rw [Value.entry, found, Option.getD_some] at list
  exact Value.areJson_iff.mp list

theorem ofValue_of_screens {document : Value} {screens : List Value}
    (listed : document.screens? = some screens) : ofValue document = ofScreens screens := by
  rcases screens?_eq_some_iff.mp listed with ⟨entries, rfl, found⟩
  simp only [ofValue, Value.unroll, found, Option.map_some]
  rfl

theorem ofValue_of_no_screens {document : Value} (json : document.isJson = true)
    (absent : document.screens? = none) :
    ∃ malformation, ofValue document = rejectShape malformation := by
  rw [ofValue, Value.unroll_of_isJson json]
  split
  · next entries =>
      have value := Value.isJson_entry "screens" json
      split
      · exact ⟨_, rfl⟩
      · next screens found =>
          rcases Option.map_eq_some_iff.mp found with ⟨list, there, unrolled⟩
          rw [Value.entry, there, Option.getD_some] at value
          rw [Value.unroll_of_isJson value] at unrolled
          rw [screens?_eq_some_iff.mpr ⟨entries, rfl, there.trans (congrArg some unrolled)⟩]
            at absent
          cases absent
      · exact ⟨_, rfl⟩
  · exact ⟨_, rfl⟩

theorem ofOutlined_eq (screens : List Value) :
    ofOutlined screens = screens.mapM Screen.outline >>= fun outlines =>
      Layout.check (Layout.ofCounts (outlines.map fun outline =>
        (outline.1, outline.2.length))) >>= fun _ =>
          (screens.mapM Screen.ofValue).map Schema.mk := by
  rw [ofOutlined]
  congr
  funext outlines
  have sizes :
      (outlines.map fun (id, components) => (Value.text id, Value.int components.length)) =
        Layout.ofCounts (outlines.map fun outline => (outline.1, outline.2.length)) := by
    simp [Layout.ofCounts]
  rw [sizes]
  rfl

variable {screens : List Value}

theorem intends_outlines (shaped : ∀ screen ∈ screens, screen.Shaped) :
    Intends (screens.mapM Screen.outline)
      (screens.map fun screen => (Screen.idOf screen, Screen.componentsOf screen)) := by
  apply intends_mapM
  rw [List.forall₂_map_right_iff, List.forall₂_same]
  exact fun screen member => Screen.intends_outline (shaped screen member)

theorem outlines_eq_ok {outlines : List (Text × List Value)}
    (json : ∀ screen ∈ screens, screen.isJson = true)
    (outlined : screens.mapM Screen.outline = .ok outlines) :
    (∀ screen ∈ screens, screen.Shaped) ∧
      outlines.map (fun outline => (outline.1, outline.2.length)) =
        screens.map Screen.countOf := by
  have shaped : ∀ screen ∈ screens, screen.Shaped := by
    intro screen member
    rcases mapM_succeeds_iff.mp ⟨_, outlined⟩ screen member with ⟨outline, read⟩
    exact (Screen.outline_eq_ok (json screen member) read).1
  have intended := (intends_outlines shaped).eq_ok (not_escapes_of_succeeds ⟨_, outlined⟩)
  rw [outlined, Except.ok.injEq] at intended
  refine ⟨shaped, ?_⟩
  rw [intended, List.map_map]
  rfl

end Schema

end ScreenFlow
