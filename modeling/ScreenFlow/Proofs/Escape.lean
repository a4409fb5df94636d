import ScreenFlow.Proofs.Grammar
import ScreenFlow.Proofs.Labels

namespace ScreenFlow

/-! Documents that are neither compiled nor refused. A form is refused with a rejection for whatever
the checks look at. What they leave alone can still end in another fault where it is used: a name
that is no text, a label that cannot be shown, and a value that has no text where one is needed. -/

open Outcome

/-! ## Labels -/

theorem Component.isJson_label_of_describes {value : Value} {component : Component}
    (json : value.isJson = true) (describes : value.DescribesComponent component) :
    component.label.isJson = true := by
  cases describes with
  | static => rfl
  | input => exact Value.isJson_entry "label" json
  | choice => exact Value.isJson_entry "label" json

namespace Schema

theorem isJson_label_of_read {document : Value} {schema : Schema} (json : document.isJson = true)
    (read : ofValue document = .ok schema) :
    ∀ placed ∈ schema.placed, placed.component.label.isJson = true := by
  intro placed member
  rcases List.mem_flatMap.mp member with ⟨screen, among, inside⟩
  rcases (describes_of_read json read).screens with ⟨screens, listed, each⟩
  rcases exists_of_forall₂ each among with ⟨source, there, describes⟩
  rcases exists_of_forall₂ describes.components
    (List.mem_of_getElem? (Screen.mem_placed_iff.mp inside).2) with ⟨part, within, describes⟩
  have json := Screen.isJson_of_componentsOf (isJson_of_screens json listed source there)
  exact Component.isJson_label_of_describes (json part within) describes

/-! ## Compiling -/

variable {schema : Schema}

theorem escapes_checkNames_iff :
    Escapes schema.checkNames ↔ ∃ before placed after,
      schema.placed = before ++ placed :: after ∧ checkKeys [] before = .ok () ∧
        ¬ placed.component.Nameable := by
  constructor
  · intro given
    rcases given with ⟨fault, failed, other⟩
    rcases checkKeys_eq_error_iff.mp failed with
      ⟨before, placed, after, split, passed, unbound | ⟨key, -, -, rfl⟩⟩
    · refine ⟨before, placed, after, split, passed, fun nameable => ?_⟩
      rw [Placed.boundKey?_of_nameable nameable] at unbound
      cases unbound
    · exact absurd rfl (other _)
  · intro given
    rcases given with ⟨before, placed, after, split, passed, unnameable⟩
    have failed (fault : Fault) (unbound : placed.boundKey? = .error fault) :
        schema.checkNames = .error fault :=
      checkKeys_eq_error_iff.mpr ⟨before, placed, after, split, passed, .inl unbound⟩
    rcases Placed.boundKey?_eq_error unnameable with unbound | unbound
    · exact ⟨_, failed _ unbound, by simp⟩
    · exact ⟨_, failed _ unbound, by simp⟩

theorem unrejected_parts (screen : Screen) : Unrejected screen.parts := by
  rw [Screen.parts_eq]
  exact unrejected_map (unrejected_mapM fun placed _ =>
    Component.unrejected_compile _ _ placed.component)

theorem parts_succeed_iff (wellFormed : ∀ placed ∈ schema.placed, placed.component.WellFormed)
    (json : ∀ placed ∈ schema.placed, placed.component.label.isJson = true)
    (nameable : ∀ placed ∈ schema.placed, placed.component.Nameable) :
    Succeeds (schema.screens.mapM Screen.parts) ↔
      ∀ placed ∈ schema.placed, placed.component.label.Presentable := by
  rw [succeeds_parts_iff]
  exact forall₂_congr fun placed member => Component.compile_succeeds_iff
    (wellFormed placed member) (nameable placed member) (json placed member) _ _

theorem escapes_compile_iff (fits : Layout.Fits schema.counts)
    (wellFormed : ∀ placed ∈ schema.placed, placed.component.WellFormed)
    (json : ∀ placed ∈ schema.placed, placed.component.label.isJson = true) :
    Escapes schema.compile ↔ Escapes schema.checkNames ∨
      (schema.checkNames = .ok () ∧
        ∃ placed ∈ schema.placed, ¬ placed.component.label.Presentable) := by
  cases names : schema.checkNames with
  | error fault =>
      rw [compile_of_names_error fits names]
      simp [Escapes]
  | ok _ =>
      have keyed := checkNames_eq_ok_iff.mp names
      have unrejected : Unrejected (schema.screens.mapM Screen.parts) :=
        unrejected_mapM fun screen _ => unrejected_parts screen
      rw [compile_eq fits keyed, escapes_map, escapes_iff_of_unrejected unrejected,
        parts_succeed_iff wellFormed json keyed.nameable]
      simp [not_escapes_ok]

end Schema

/-! ## Documents -/

/-- The documents that are neither compiled nor refused. -/
inductive Breaks (document : Value) : Prop where
  | id {before after : List Value} {entries : List (Value × Value)}
      (screens : document.screens? = some (before ++ .map entries :: after))
      (few : (before ++ .map entries :: after).length ≤ maxScreens)
      (outlined : ∀ screen ∈ before, Succeeds (Screen.outline screen))
      (given : (Value.entry "id" entries).isGiven = true)
      (unwritable : (Value.entry "id" entries).isWritable = false)
  | component {before after : List Value} {screen : Value} {id : Text}
      {outlines : List (Text × List Value)} {components : List Value}
      {front back : List (Nat × Value)} {entry : Nat × Value}
      (screens : document.screens? = some (before ++ screen :: after))
      (outlined : (before ++ screen :: after).mapM Screen.outline = .ok outlines)
      (fits : Layout.Fits (outlines.map fun outline => (outline.1, outline.2.length)))
      (read : ∀ earlier ∈ before, Succeeds (Screen.ofValue earlier))
      (outline : Screen.outline screen = .ok (id, components))
      (parts : Sequence.indexed components = front ++ entry :: back)
      (readFront : ∀ earlier ∈ front,
        Succeeds (Component.ofValue (.text id) (.int earlier.1) earlier.2))
      (unreadable : entry.2.Unreadable)
  | name {schema : Schema} {before after : List Placed} {placed : Placed} {name : Value}
      (read : Schema.ofValue document = .ok schema)
      (components : schema.placed = before ++ placed :: after)
      (passed : Schema.checkKeys [] before = .ok ())
      (named : placed.component.name? = some name) (given : name.isGiven = true)
      (noText : ∀ content, name ≠ .text content)
  | label {schema : Schema} {placed : Placed}
      (read : Schema.ofValue document = .ok schema) (checked : schema.checkNames = .ok ())
      (member : placed ∈ schema.placed) (hidden : ¬ placed.component.label.Presentable)

theorem Component.not_nameable_iff {component : Component} (wellFormed : component.WellFormed) :
    ¬ component.Nameable ↔ ∃ name, component.name? = some name ∧ name.isGiven = true ∧
      ∀ content, name ≠ .text content := by
  have named : ∃ name, component.name? = some name := by
    cases component with
    | foreign => exact wellFormed.elim
    | _ => exact ⟨_, rfl⟩
  rcases named with ⟨name, named⟩
  simp [Nameable, named]

namespace Schema

theorem breaks_of_stalls {document : Value} (stalls : Stalls document) : Breaks document := by
  cases stalls with
  | id listed unwritable =>
      rcases unwritable with ⟨few, before, screen, after, rfl, outlined, entries, rfl, given,
        unwritable⟩
      exact .id listed few outlined given unwritable
  | component listed outlined fits read outline parts readFront unreadable =>
      exact .component listed outlined fits read outline parts readFront unreadable

theorem breaks_of_escapes_ofScreens {document : Value} {screens : List Value}
    (json : document.isJson = true) (listed : document.screens? = some screens)
    (escaped : Escapes (ofScreens screens)) : Breaks document :=
  breaks_of_stalls (stalls_of_escapes_ofScreens json listed escaped)

theorem breaks_of_escapes_compile {document : Value} {schema : Schema}
    (json : document.isJson = true) (read : ofValue document = .ok schema)
    (escaped : Escapes schema.compile) : Breaks document := by
  have wellFormed := wellFormed_of_read read
  rcases (escapes_compile_iff (fits_of_read read) wellFormed (isJson_label_of_read json read)).mp
    escaped with escaped | ⟨checked, placed, member, hidden⟩
  · rcases escapes_checkNames_iff.mp escaped with ⟨before, placed, after, split, passed, unnameable⟩
    have member : placed ∈ schema.placed := by simp [split]
    rcases (Component.not_nameable_iff (wellFormed placed member)).mp unnameable with
      ⟨name, named, given, noText⟩
    exact .name read split passed named given noText
  · exact .label read checked member hidden

theorem escapes_of_breaks {document : Value} (json : document.isJson = true)
    (breaks : Breaks document) : Escapes (ofValue document >>= compile) := by
  rw [escapes_bind]
  cases breaks with
  | id listed few outlined given unwritable =>
      have stalls : Stalls document :=
        .id listed ⟨few, _, _, _, rfl, outlined, _, rfl, given, unwritable⟩
      exact .inl (escapes_of_stalls json stalls)
  | component listed outlined fits read outline parts readFront unreadable =>
      have stalls : Stalls document :=
        .component listed outlined fits read outline parts readFront unreadable
      exact .inl (escapes_of_stalls json stalls)
  | name read components passed named given noText =>
      have wellFormed := wellFormed_of_read read
      have unnameable := (Component.not_nameable_iff (wellFormed _ (by simp [components]))).mpr
        ⟨_, named, given, noText⟩
      have escaped := escapes_checkNames_iff.mpr ⟨_, _, _, components, passed, unnameable⟩
      exact .inr ⟨_, read, (escapes_compile_iff (fits_of_read read) wellFormed
        (isJson_label_of_read json read)).mpr (.inl escaped)⟩
  | label read checked member hidden =>
      exact .inr ⟨_, read, (escapes_compile_iff (fits_of_read read) (wellFormed_of_read read)
        (isJson_label_of_read json read)).mpr (.inr ⟨checked, _, member, hidden⟩)⟩

/-- Reading a document of JSON and compiling its form has a result or a rejection, except in the
cases above. -/
theorem answers_iff_not_breaks {document : Value} (json : document.isJson = true) :
    Answers (ofValue document >>= compile) ↔ ¬ Breaks document := by
  rw [answers_iff]
  -- Each way to break belongs to one pass: two to reading, two to compiling.
  refine not_congr ⟨fun escaped => ?_, escapes_of_breaks json⟩
  rcases escapes_bind.mp escaped with escaped | ⟨schema, read, escaped⟩
  · rcases (escapes_ofValue_iff json).mp escaped with ⟨screens, listed, escaped⟩
    exact breaks_of_escapes_ofScreens json listed escaped
  · exact breaks_of_escapes_compile json read escaped

def numberedDocument : Value :=
  .map [field "screens" (.list [
    .map [field "id" (.text "a"), field "components" (.list [
      .map [field "type" (.text "input"), field "name" (.text "n"), field "label" (.int 5)]])]])]

theorem outcome_of_numberedDocument :
    (ofValue numberedDocument >>= compile) = .error .wrongKind := by decide +kernel

theorem numberedDocument_not_answered :
    numberedDocument.isJson = true ∧ ¬ Answers (ofValue numberedDocument >>= compile) := by
  refine ⟨rfl, ?_⟩
  rw [answers_iff, not_not, outcome_of_numberedDocument]
  exact ⟨.wrongKind, rfl, by simp⟩

theorem numberedDocument_breaks : numberedDocument.isJson = true ∧ Breaks numberedDocument := by
  refine ⟨rfl, not_not.mp ?_⟩
  rw [← answers_iff_not_breaks rfl, answers_iff, not_not, outcome_of_numberedDocument]
  exact ⟨.wrongKind, rfl, by simp⟩

end Schema

end ScreenFlow
