import ScreenFlow.Proofs.Drawing
import ScreenFlow.Proofs.Grammar

namespace ScreenFlow

/-! Which forms that compile can be drawn. A title passes through the compiler untouched, but a
diagram has to show it, and a title of another kind than a text cannot be shown. -/

open Outcome

namespace Screen

variable {mode : DiagramMode} {screen : Screen}

/-- The title is given and is no text. -/
def Mistitled (screen : Screen) : Prop :=
  screen.title.isGiven = true ∧ ∀ content, screen.title ≠ .text content

/-- What drawing a screen with such a title ends with. Keys cannot be put below the title; without
keys it is the title itself that cannot be put between quotes. -/
def drawingFault (mode : DiagramMode) (screen : Screen) : Fault :=
  if mode = .detailed ∧ keyed [screen] ≠ [] then .wrongKind else .missingPart

theorem drawable_iff_not_mistitled
    (nameable : ∀ placed ∈ screen.placed, placed.component.Nameable) :
    screen.Drawable mode ↔ ¬ screen.Mistitled := by
  rw [Mistitled, not_and, not_forall_not]
  exact ⟨Drawable.titled, fun titled => ⟨titled, fun _ => nameable⟩⟩

theorem isJson_title_of_describes {value : Value} (json : value.isJson = true)
    (describes : value.DescribesScreen screen) : screen.title.isJson = true := by
  rw [describes.title]
  cases value with
  | map entries =>
      rw [Value.member?]
      cases found : Value.lookup? "title" entries with
      | none => rfl
      | some title =>
          have entry := Value.isJson_entry "title" json
          rwa [Value.entry, found] at entry
  | _ => rfl

end Screen

/-! ## Nodes -/

namespace Diagram

variable {mode : DiagramMode} {last : Bool} {screen : Screen} {screens : List Screen}
  {value : Value} {fault : Fault}

def caption (mode : DiagramMode) (screen : Screen) : Except Fault Text :=
  label mode screen >>= quoteValue

theorem caption_succeeds_iff : Succeeds (caption mode screen) ↔ screen.Drawable mode := by
  rw [← node_succeeds_iff true, node_eq, succeeds_map_iff, caption]

theorem nodes_eq_error_iff :
    nodes mode screens = .error fault ↔ FailsFirst (caption mode) screens fault := by
  induction screens with
  | nil => simp [nodes, not_failsFirst_nil, pure, Except.pure]
  | cons screen screens induction =>
      -- A node that is set apart as the last one fails as it would elsewhere.
      rw [nodes, failsFirst_cons, ← induction, bind_eq_error, node_eq, map_eq_error_iff, ← caption]
      simp only [map_eq_ok, bind_pure_comp, functor_map_eq, map_eq_error_iff, Succeeds]
      grind

theorem quoteValue_of_other (json : value.isJson = true) (given : value.isGiven = true)
    (other : ∀ content, value ≠ .text content) : quoteValue value = .error .missingPart := by
  cases value with
  | text content => exact absurd rfl (other content)
  | null | bool | int | float | list | map => simp [quoteValue, given]
  | _ => simp [Value.isJson] at json

theorem caption_of_mistitled (json : screen.title.isJson = true)
    (nameable : ∀ placed ∈ screen.placed, placed.component.Nameable)
    (mistitled : screen.Mistitled) : caption mode screen = .error (screen.drawingFault mode) := by
  rcases mistitled with ⟨given, other⟩
  have shown : heading screen = screen.title := if_pos given
  have unquoted := quoteValue_of_other json given other
  rw [caption, Screen.drawingFault]
  cases mode with
  | simple =>
      rw [label_simple, ok_bind, shown, unquoted, if_neg (by simp)]
  | detailed =>
      have keys := fields_eq_ok_iff.mpr ⟨nameable, rfl⟩
      rw [label_detailed, keys, ok_bind, listing, shown]
      by_cases none : Screen.keyed [screen] = []
      · rw [if_pos (by simp [none, Ordered.keys]), ok_bind, unquoted, if_neg (by simp [none])]
      · have untexted : screen.title.text? = Option.none := by
          cases title : screen.title with
          | text content => exact absurd title (other content)
          | _ => rfl
        rw [if_neg (by simpa [Ordered.keys] using none), if_pos ⟨rfl, none⟩, untexted]
        rfl

theorem caption_eq_error_iff (json : screen.title.isJson = true)
    (nameable : ∀ placed ∈ screen.placed, placed.component.Nameable) :
    caption mode screen = .error fault ↔
      screen.Mistitled ∧ screen.drawingFault mode = fault := by
  by_cases mistitled : screen.Mistitled
  · rw [caption_of_mistitled json nameable mistitled, Except.error.injEq, and_iff_right mistitled]
  · have drawable : screen.Drawable mode :=
      (Screen.drawable_iff_not_mistitled nameable).mpr mistitled
    rcases caption_succeeds_iff.mpr drawable with ⟨shown, made⟩
    simp [made, mistitled]

end Diagram

/-! ## Forms -/

namespace Schema

variable {schema : Schema} {document : Value} {mode : DiagramMode} {fault : Fault}

/-- The form has a diagram of each kind. -/
def Drawn (schema : Schema) : Prop := ∀ mode, Succeeds (schema.diagram mode)

theorem diagram_eq_error_iff :
    schema.diagram mode = .error fault ↔
      FailsFirst (Diagram.caption mode) schema.screens fault := by
  rw [← Diagram.nodes_eq_error_iff, diagram, diagramLines]
  cases Diagram.nodes mode schema.screens <;> simp [bind, Except.bind, pure, Except.pure]

theorem nameable_of_compile (compiles : Succeeds schema.compile) {screen : Screen}
    (among : screen ∈ schema.screens) :
    ∀ placed ∈ screen.placed, placed.component.Nameable := by
  rcases compiles with ⟨flow, compiled⟩
  exact (compile_eq_ok_iff.mp compiled).2.1.nameable_of_mem among

theorem isJson_title_of_read (json : document.isJson = true)
    (read : ofValue document = .ok schema) {screen : Screen} (among : screen ∈ schema.screens) :
    screen.title.isJson = true := by
  rcases (describes_of_read json read).screens with ⟨screens, listed, each⟩
  rcases exists_of_forall₂ each among with ⟨source, there, describes⟩
  exact Screen.isJson_title_of_describes (isJson_of_screens json listed source there) describes

/-- A form that is read from a JSON text and compiles has its diagrams exactly if each of its titles
is a text wherever it is given. Otherwise the first other title decides how drawing ends. -/
theorem drawn_iff_of_compile (json : document.isJson = true)
    (read : ofValue document = .ok schema) (compiles : Succeeds schema.compile) :
    (schema.Drawn ↔ ∀ screen ∈ schema.screens, ¬ screen.Mistitled) ∧
      ∀ mode fault, schema.diagram mode = .error fault ↔
        ∃ before screen after, schema.screens = before ++ screen :: after ∧
          (∀ earlier ∈ before, ¬ earlier.Mistitled) ∧ screen.Mistitled ∧
            screen.drawingFault mode = fault := by
  have drawable {screen : Screen} (mode : DiagramMode) (among : screen ∈ schema.screens) :
      screen.Drawable mode ↔ ¬ screen.Mistitled :=
    Screen.drawable_iff_not_mistitled (nameable_of_compile compiles among)
  have captioned {screen : Screen} (mode : DiagramMode) (among : screen ∈ schema.screens) :
      Succeeds (Diagram.caption mode screen) ↔ ¬ screen.Mistitled :=
    Diagram.caption_succeeds_iff.trans (drawable mode among)
  constructor
  · simp only [Drawn, diagram_succeeds_iff]
    exact ⟨fun drawn screen among => (drawable .simple among).mp (drawn .simple screen among),
      fun titled mode screen among => (drawable mode among).mpr (titled screen among)⟩
  · intro mode fault
    rw [diagram_eq_error_iff, FailsFirst]
    refine exists_congr fun before => exists_congr fun screen => exists_congr fun after =>
      and_congr_right fun split => ?_
    have earlier : ∀ screen ∈ before, screen ∈ schema.screens := fun _ member =>
      split ▸ List.mem_append_left _ member
    have among : screen ∈ schema.screens := split ▸ List.mem_append_cons_self
    -- With all components nameable, a caption fails for its title alone.
    rw [Diagram.caption_eq_error_iff (isJson_title_of_read json read among)
      (nameable_of_compile compiles among)]
    exact and_congr_left fun _ => forall₂_congr fun screen member =>
      captioned mode (earlier screen member)

def untitledDocument : Value :=
  .map [field "screens" (.list [
    .map [field "id" (.text "a"), field "components" (.list [
      .map [field "type" (.text "input"), field "name" (.text "n")]])],
    .map [field "id" (.text "b"), field "title" .null],
    .map [field "id" (.text "c"), field "title" (.text "First\nsecond")]])]

theorem untitledDocument_drawn : untitledDocument.isJson = true ∧
    ∃ schema, ofValue untitledDocument = .ok schema ∧ Succeeds schema.compile ∧ schema.Drawn := by
  have read : (ofValue untitledDocument).toOption.any
      (fun schema => decide (Succeeds schema.compile ∧ ∀ screen ∈ schema.screens,
        screen.title.isGiven = true → screen.title = .text "First\nsecond")) = true := by
    decide +kernel
  rcases exists_of_any read with ⟨schema, read, given⟩
  rcases of_decide_eq_true given with ⟨compiles, titled⟩
  refine ⟨rfl, schema, read, compiles, ?_⟩
  rw [(drawn_iff_of_compile rfl read compiles).1]
  exact fun screen among mistitled => mistitled.2 _ (titled screen among mistitled.1)

def countedDocument : Value :=
  .map [field "screens" (.list [.map [field "id" (.text "a"), field "title" (.int 5)]])]

theorem countedDocument_not_drawn : countedDocument.isJson = true ∧
    ∃ schema, ofValue countedDocument = .ok schema ∧ Succeeds schema.compile ∧
      ¬ schema.Drawn := by
  have read : (ofValue countedDocument).toOption.any (fun schema => decide
      (Succeeds schema.compile ∧ ¬ Succeeds (schema.diagram .simple))) = true := by
    decide +kernel
  rcases exists_of_any read with ⟨schema, read, given⟩
  rcases of_decide_eq_true given with ⟨compiles, failed⟩
  exact ⟨rfl, schema, read, compiles, fun drawn => failed (drawn .simple)⟩

end Schema

end ScreenFlow
