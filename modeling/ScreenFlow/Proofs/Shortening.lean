import ScreenFlow.Proofs.Agreement
import ScreenFlow.Proofs.Captions
import ScreenFlow.Proofs.Wiring

namespace ScreenFlow

/-! What a document shows of the labels of a form, and what is noted about them. A label is shown as
far as there is room for it, and there is one note about each that is cut. With the labels that the
document shows, a form compiles to the same document, and there is nothing left to note. -/

open Outcome

namespace Sequence

theorem indexed_zipWith (merge : α → β → γ) (elements : List α) (results : List β) :
    indexed (elements.zipWith merge results) =
      (indexed elements).zipWith (fun entry result => (entry.1, merge entry.2 result)) results := by
  suffices all : ∀ start, indexed.indexedFrom start (elements.zipWith merge results) =
      (indexed.indexedFrom start elements).zipWith
        (fun entry result => (entry.1, merge entry.2 result)) results from all 0
  induction elements generalizing results with
  | nil => exact fun _ => rfl
  | cons element elements induction =>
      intro start
      cases results with
      | nil => rfl
      | cons result results => exact congrArg _ (induction results (start + 1))

end Sequence

/-! ## Labels -/

namespace Naming

theorem cut_text (content : Text) :
    cut (.text content) =
      .text (Text.ofList (content.toList.take (min maxLabelLength content.length))) := by
  rw [cut, List.take_eq_take_min, Text.length_toList]

theorem cut_eq_self_iff {label : Value} (textual : label.AbsentOrText) :
    cut label = label ↔
      label.length?.any (fun length => decide (maxLabelLength < length)) = false := by
  rw [eq_comm]
  exact (truncateLabel_eq_ok (truncateLabel_of_textual textual)).2

end Naming

/-- What is left of a label: nothing of one that is absent, and else its first characters. -/
def Value.shortened? (label : Value) : Option Value :=
  label.text?.map fun content =>
    .text (Text.ofList (content.toList.take (min Naming.maxLabelLength content.length)))

theorem Value.shortened?_of_textual {label : Value} (textual : label.AbsentOrText) :
    label.shortened? = if (Naming.cut label).isNull then none else some (Naming.cut label) := by
  rcases textual with rfl | ⟨content, rfl⟩
  · rfl
  · rw [Naming.cut_text]
    rfl

/-! ## Components -/

namespace Component

def withLabel (label : Value) : Component → Component
  | .input type name _ required => .input type name label required
  | .choice type name _ required options => .choice type name label required options
  | component => component

theorem wiredAs_withLabel (label : Value) (component : Component) :
    component.WiredAs (component.withLabel label) := by
  cases component with
  | choice type => exact ⟨fun _ _ => rfl, by cases type <;> rfl⟩
  | _ => exact ⟨fun _ _ => rfl, rfl⟩

end Component

namespace Placed

/-- The caption calls a component by its key and shows its label as far as there is room. -/
structure Captioned (placed : Placed) (caption : Caption) : Prop where
  name : caption.name = placed.widgetName?
  label : caption.label = placed.component.label.shortened?

/-- The note tells on which screen a component is, what its widget is called, and its label before
and after the cut. -/
structure Noted (placed : Placed) (caption : Caption) (note : Diagnostic) : Prop where
  screen : note.screen = .text placed.screen
  component : some note.component = caption.name
  label : note.label = placed.component.label
  shown : some note.shown = caption.label
  message : ∃ content, note.label = .text content ∧ note.message =
    "Label \"" ++ content ++ "\" truncated to " ++ toString Naming.maxLabelLength ++ " characters."

end Placed

/-- A static component has no label and no caption. A field is called by its key, and its caption
and the note about it are made from its label. -/
theorem Component.Compiles.label_cases {screen position : Value} {component : Component}
    {part : Widget × Option Diagnostic} (compiles : Compiles screen position component part) :
    (component.label = .null ∧ part.1.caption.label = none ∧ part.2 = none) ∨
      ∃ key shown, Naming.truncateLabel Naming.maxLabelLength component.label = .ok shown ∧
        Diagnostic.ofLabel? screen key component.label shown = .ok part.2 ∧
        part.1.caption = ⟨some key, if shown.isNull then none else some shown⟩ := by
  cases compiles with
  | static => exact .inl ⟨rfl, rfl, rfl⟩
  | input named cut noted => exact .inr ⟨_, _, cut, noted, rfl⟩
  | choice named cut noted listed => exact .inr ⟨_, _, cut, noted, rfl⟩

namespace Placed

variable {placed : Placed} {part : Widget × Option Diagnostic}

theorem captioned_of_compiled (textual : placed.component.label.AbsentOrText)
    (made : placed.compiled = .ok part) : placed.Captioned part.1.caption := by
  refine ⟨name_of_compiled made, ?_⟩
  rw [Value.shortened?_of_textual textual]
  rcases (Component.compile_eq_ok_iff.mp made).label_cases with
    ⟨absent, bare, -⟩ | ⟨key, shown, cut, -, caption⟩
  · rw [absent, bare]
    rfl
  · rw [Naming.truncateLabel_of_textual textual] at cut
    rw [caption, Except.ok.inj cut]

theorem noted_of_compiled (textual : placed.component.label.AbsentOrText)
    (made : placed.compiled = .ok part) :
    (placed.component.isLong = false ∧ part.2 = none) ∨
      (placed.component.isLong = true ∧
        ∃ note, part.2 = some note ∧ placed.Noted part.1.caption note) := by
  rcases (Component.compile_eq_ok_iff.mp made).label_cases with
    ⟨absent, -, unnoted⟩ | ⟨key, shown, cut, noted, caption⟩
  · exact .inl ⟨by rw [Component.isLong, absent]; rfl, unnoted⟩
  · rw [Naming.truncateLabel_of_textual textual] at cut
    rcases Except.ok.inj cut with rfl
    have whole : Naming.cut placed.component.label = placed.component.label ↔
        placed.component.isLong = false := Naming.cut_eq_self_iff textual
    rw [Diagnostic.ofLabel?] at noted
    split at noted
    · next same => exact .inl ⟨whole.mp same.symm, (pure_eq_ok.mp noted).symm⟩
    · next differs =>
        have long : placed.component.isLong = true := by
          rw [← Bool.not_eq_false]
          exact fun short => differs (whole.mpr short).symm
        rcases textual with absent | ⟨content, label⟩
        · rw [absent] at differs
          exact absurd rfl differs
        · rw [label] at noted caption
          exact .inr ⟨long, _, (pure_eq_ok.mp noted).symm, rfl, by rw [caption], label.symm,
            by rw [caption]; rfl, content, rfl, rfl⟩

/-- A component whose label is replaced by what is shown of it compiles to the same widget, and
there is no note about it. -/
theorem compiled_withLabel (textual : placed.component.label.AbsentOrText)
    (made : placed.compiled = .ok part) :
    compiled ⟨placed.screen, placed.position,
        placed.component.withLabel (part.1.caption.label.getD .null)⟩ = .ok (part.1, none) := by
  rcases placed with ⟨screen, position, component⟩
  have again {label shown : Value} (textual : label.AbsentOrText)
      (cut : Naming.truncateLabel Naming.maxLabelLength label = .ok shown) :
      (if shown.isNull then none else some shown).getD .null = shown ∧
        Naming.truncateLabel Naming.maxLabelLength shown = .ok shown := by
    rw [Naming.truncateLabel_of_textual textual] at cut
    rcases Except.ok.inj cut with rfl
    refine ⟨?_, by rw [Naming.truncateLabel_of_textual (Naming.absentOrText_cut textual),
      Naming.cut_cut]⟩
    cases Naming.cut label <;> rfl
  have silent (key : Text) (shown : Value) :
      Diagnostic.ofLabel? (.text screen) key shown shown = .ok none := by
    rw [Diagnostic.ofLabel?, if_pos rfl]
    rfl
  apply Component.compile_eq_ok_iff.mpr
  cases Component.compile_eq_ok_iff.mp made with
  | static => exact .static
  | input named cut noted =>
      rcases again textual cut with ⟨same, whole⟩
      rw [Widget.caption, same]
      exact .input named whole (silent _ _)
  | choice named cut noted listed =>
      rcases again textual cut with ⟨same, whole⟩
      rw [Widget.caption, same]
      exact .choice named whole (silent _ _) listed

theorem whole_iff_of_captioned {caption : Caption} (textual : placed.component.label.AbsentOrText)
    (captioned : placed.Captioned caption) :
    caption.label.getD .null = placed.component.label ↔ placed.component.isLong = false := by
  have shown : caption.label.getD .null = Naming.cut placed.component.label := by
    rw [captioned.label, Value.shortened?_of_textual textual]
    cases Naming.cut placed.component.label <;> rfl
  rw [shown, Naming.cut_eq_self_iff textual, Component.isLong]

theorem notes_of_compiled {placeds : List Placed} {row : List (Widget × Option Diagnostic)}
    (textual : ∀ placed ∈ placeds, placed.component.label.AbsentOrText)
    (each : List.Forall₂ (fun placed part => placed.compiled = .ok part) placeds row) :
    List.Forall₂ (fun entry note => entry.1.Noted entry.2 note)
      ((placeds.zip (row.map fun part => part.1.caption)).filter fun entry =>
        entry.1.component.isLong)
      (row.filterMap Prod.snd) := by
  induction each with
  | nil => exact .nil
  | cons made rest induction =>
      rw [List.forall_mem_cons] at textual
      rw [List.map_cons, List.zip_cons_cons]
      rcases noted_of_compiled textual.1 made with ⟨short, none⟩ | ⟨long, note, some, noted⟩
      · rw [List.filter_cons_of_neg (by simp [short]), List.filterMap_cons_none none]
        exact induction textual.2
      · rw [List.filter_cons_of_pos (by simpa using long), List.filterMap_cons_some some]
        exact .cons noted (induction textual.2)

end Placed

/-! ## Screens -/

def Screen.relabelled (screen : Screen) (captions : List Caption) : Screen :=
  { screen with
    components := screen.components.zipWith
      (fun component caption => component.withLabel (caption.label.getD .null)) captions }

namespace Screen

variable {screen : Screen} {row : List (Widget × Option Diagnostic)}

theorem wiredAs_relabelled {captions : List Caption}
    (length : screen.components.length = captions.length) :
    screen.WiredAs (screen.relabelled captions) := by
  refine ⟨rfl, ?_⟩
  rw [relabelled, List.forall₂_iff_get]
  refine ⟨by simp [length], fun position inside inside' => ?_⟩
  simp only [List.get_eq_getElem, List.getElem_zipWith]
  exact Component.wiredAs_withLabel _ _

theorem compiled_relabelled
    (textual : ∀ placed ∈ screen.placed, placed.component.label.AbsentOrText)
    (made : List.Forall₂ (fun placed part => placed.compiled = .ok part) screen.placed row) :
    List.Forall₂ (fun placed part => placed.compiled = .ok part)
      (screen.relabelled (row.map fun part => part.1.caption)).placed
      (row.map fun part => (part.1, none)) := by
  have both := (List.forall₂_and_left screen.placed row).mpr ⟨textual, made⟩
  rw [placed, List.forall₂_map_left_iff] at both
  rw [placed, List.forall₂_map_left_iff, relabelled, List.zipWith_map_right,
    Sequence.indexed_zipWith]
  exact forall₂_zipWith_left both fun entry part both => Placed.compiled_withLabel both.1 both.2

theorem widgets?_relabelled
    (textual : ∀ placed ∈ screen.placed, placed.component.label.AbsentOrText)
    (made : List.Forall₂ (fun placed part => placed.compiled = .ok part) screen.placed row) :
    screen.widgets? = (screen.relabelled (row.map fun part => part.1.caption)).widgets? := by
  have before := widgets?_of_parts (parts_eq_ok_iff.mpr ⟨row, made, rfl⟩)
  have after := widgets?_of_parts (parts_eq_ok_iff.mpr ⟨_, compiled_relabelled textual made, rfl⟩)
  rw [before, after, List.map_map]
  rfl

end Screen

/-! ## Forms -/

def Schema.relabelled (schema : Schema) (captions : List (List Caption)) : Schema :=
  { schema with screens := schema.screens.zipWith Screen.relabelled captions }

/-- The captions are those of the document; they show the labels of the form, and what is shown
is told by the notes. -/
structure Schema.Labelled (schema : Schema) (flow : CompiledFlow)
    (captions : List (List Caption)) : Prop where
  read : flow.document.toValue.records? Caption.ofRecord? = some captions
  captioned : List.Forall₂ (fun screen captions =>
    List.Forall₂ Placed.Captioned screen.placed captions) schema.screens captions
  noted : List.Forall₂ (fun entry note => entry.1.Noted entry.2 note)
    ((schema.placed.zip captions.flatten).filter fun entry => entry.1.component.isLong)
    flow.diagnostics
  whole : flow.diagnostics = [] ↔ ∀ entry ∈ schema.placed.zip captions.flatten,
    entry.2.label.getD .null = entry.1.component.label
  /-- With the labels that are shown, the form compiles to the same document without a note. -/
  again : (schema.relabelled captions).compile = .ok ⟨flow.document, []⟩

namespace Schema

variable {schema : Schema} {flow : CompiledFlow} {rows : List (List (Widget × Option Diagnostic))}

theorem widgets_flowWith {parts : List (List Widget × List Diagnostic)}
    (length : schema.screens.length = parts.length) :
    (schema.flowWith parts).document.screens.map ScreenRecord.widgets = parts.map Prod.fst := by
  have second : ((schema.screens.zip parts).zipIdx.map Prod.fst).map Prod.snd = parts := by
    rw [List.zipIdx_map_fst, List.map_snd_zip (Nat.le_of_eq length.symm)]
  conv_rhs => rw [← second]
  simp only [flowWith, List.map_map]
  rfl

theorem CompilesTo.placed (compiles : schema.CompilesTo rows) :
    List.Forall₂ (fun placed part => placed.compiled = .ok part) schema.placed rows.flatten := by
  rw [← List.flatMap_id]
  exact List.rel_flatMap compiles fun _ _ made => made

theorem CompilesTo.screens (compiles : schema.CompilesTo rows)
    (textual : ∀ placed ∈ schema.placed, placed.component.label.AbsentOrText) :
    List.Forall₂ (fun screen row =>
      (∀ placed ∈ screen.placed, placed.component.label.AbsentOrText) ∧
        List.Forall₂ (fun placed part => placed.compiled = .ok part) screen.placed row)
      schema.screens rows := by
  rw [Schema.placed, List.forall_mem_flatMap] at textual
  exact (List.forall₂_and_left schema.screens rows).mpr ⟨textual, compiles⟩

def captions (rows : List (List (Widget × Option Diagnostic))) : List (List Caption) :=
  rows.map fun row => row.map fun part => part.1.caption

theorem captions_flowWith (compiles : schema.CompilesTo rows) :
    (schema.flowWith (rows.map fun row =>
      (row.map Prod.fst, row.filterMap Prod.snd))).document.screens.map ScreenRecord.captions =
        captions rows := by
  have widgets := @widgets_flowWith schema
    (rows.map fun row => (row.map Prod.fst, row.filterMap Prod.snd))
    (by rw [List.length_map, compiles.length_eq])
  rw [List.map_map] at widgets
  have captioned := congrArg (List.map (List.map Widget.caption)) widgets
  rw [List.map_map, List.map_map] at captioned
  refine captioned.trans (List.map_congr_left fun row _ => ?_)
  exact List.map_map ..

theorem wiredAs_relabelled (compiles : schema.CompilesTo rows) :
    schema.WiredAs (schema.relabelled (captions rows)) := by
  rw [WiredAs, relabelled, captions, List.zipWith_map_right]
  refine forall₂_zipWith_right compiles fun screen row made => Screen.wiredAs_relabelled ?_
  rw [← Screen.length_placed, made.length_eq, List.length_map]

theorem compilesTo_relabelled
    (textual : ∀ placed ∈ schema.placed, placed.component.label.AbsentOrText)
    (compiles : schema.CompilesTo rows) :
    (schema.relabelled (captions rows)).CompilesTo
      (rows.map fun row => row.map fun part => (part.1, none)) := by
  rw [CompilesTo, relabelled, captions, List.zipWith_map_right]
  exact forall₂_zipWith_left (compiles.screens textual) fun screen row both =>
    Screen.compiled_relabelled both.1 both.2

theorem compile_relabelled
    (textual : ∀ placed ∈ schema.placed, placed.component.label.AbsentOrText)
    (compiled : schema.compile = .ok flow) (compiles : schema.CompilesTo rows) :
    (schema.relabelled (captions rows)).compile = .ok ⟨flow.document, []⟩ := by
  have wired := wiredAs_relabelled compiles
  have valid := (compile_eq_ok_iff_rows.mp compiled).1
  rw [wired.validate] at valid
  have again : ∃ flow', (schema.relabelled (captions rows)).compile = .ok flow' ∧
      flow'.diagnostics = [] :=
    ⟨_, compile_eq_ok_iff_rows.mpr ⟨valid, _, compilesTo_relabelled textual compiles, rfl⟩,
      by simp [flowWith]⟩
  rcases again with ⟨flow', again, silent⟩
  have shown : List.Forall₂ (fun screen screen' => screen.title = screen'.title ∧
      screen.widgets? = screen'.widgets?) schema.screens
        (schema.relabelled (captions rows)).screens := by
    rw [relabelled, captions, List.zipWith_map_right]
    exact forall₂_zipWith_right (compiles.screens textual) fun screen row both =>
      ⟨rfl, Screen.widgets?_relabelled both.1 both.2⟩
  rw [again, wired.document_eq shown compiled again, ← silent]

theorem captioned_captions
    (textual : ∀ placed ∈ schema.placed, placed.component.label.AbsentOrText)
    (compiles : schema.CompilesTo rows) :
    List.Forall₂ (fun screen captions => List.Forall₂ Placed.Captioned screen.placed captions)
      schema.screens (captions rows) := by
  rw [captions, List.forall₂_map_right_iff]
  refine (compiles.screens textual).imp fun screen row both => ?_
  rw [List.forall₂_map_right_iff]
  exact ((List.forall₂_and_left screen.placed row).mpr both).imp fun _ _ both =>
    Placed.captioned_of_compiled both.1 both.2

theorem noted_flowWith
    (textual : ∀ placed ∈ schema.placed, placed.component.label.AbsentOrText)
    (compiles : schema.CompilesTo rows) :
    List.Forall₂ (fun entry note => entry.1.Noted entry.2 note)
      ((schema.placed.zip (captions rows).flatten).filter fun entry => entry.1.component.isLong)
      (schema.flowWith (rows.map fun row =>
        (row.map Prod.fst, row.filterMap Prod.snd))).diagnostics := by
  have notes : (schema.flowWith (rows.map fun row =>
      (row.map Prod.fst, row.filterMap Prod.snd))).diagnostics = rows.flatten.filterMap Prod.snd := by
    rw [flowWith, List.flatMap_map, ← List.flatMap_id, List.filterMap_flatMap]
    rfl
  have flat : (captions rows).flatten = rows.flatten.map fun part => part.1.caption :=
    List.map_flatten.symm
  rw [notes, flat]
  exact Placed.notes_of_compiled textual compiles.placed

/-- The document of a form shows its labels as far as there is room for them and the notes tell
which were cut, and compiling the form as it is shown changes nothing. -/
theorem labelled_of_compile
    (textual : ∀ placed ∈ schema.placed, placed.component.label.AbsentOrText)
    (compiled : schema.compile = .ok flow) : ∃ captions, schema.Labelled flow captions := by
  rcases compile_eq_ok_iff_rows.mp compiled with ⟨-, rows, compiles, made⟩
  have read := Page.records?_toValue Caption.ofRecord?_toValue flow.document
  have noted := noted_flowWith textual compiles
  have captioned := captioned_captions textual compiles
  rw [← made, captions_flowWith compiles, made] at read
  rw [made] at noted
  refine ⟨captions rows, read, captioned, noted, ?_, compile_relabelled textual compiled compiles⟩
  have silent : flow.diagnostics = [] ↔ ((schema.placed.zip (captions rows).flatten).filter
      fun entry => entry.1.component.isLong) = [] := by
    rw [← List.length_eq_zero_iff, ← noted.length_eq, List.length_eq_zero_iff]
  rw [silent, List.filter_eq_nil_iff]
  refine forall₂_congr fun entry member => ?_
  have each : List.Forall₂ Placed.Captioned schema.placed (captions rows).flatten := by
    rw [← List.flatMap_id]
    exact List.rel_flatMap captioned fun _ _ each => each
  rw [Placed.whole_iff_of_captioned (textual _ (List.of_mem_zip member).1)
    (List.forall₂_zip each member), Bool.not_eq_true]

def wordy : Schema where
  screens := [
    ⟨"guest", .text "", [.static .heading (.text "Welcome") .null,
      .input .input (.text "name") (.text "Your name as we should write it") .null]⟩,
    ⟨"stay", .null, [.choice .radio (.text "room") (.text "Room") .null .null,
      .input .date (.text "until") .null .null,
      .input .textarea (.text "needs") (.text "Is there anything you need?") .null]⟩]

theorem wordy_labelled :
    (∀ placed ∈ wordy.placed, placed.component.label.AbsentOrText) ∧
      ∃ flow captions, wordy.compile = .ok flow ∧ wordy.Labelled flow captions ∧
        flow.diagnostics.map Diagnostic.component = ["guest_name_1", "stay_needs_2"] := by
  have textual : ∀ placed ∈ wordy.placed, placed.component.label.AbsentOrText := by
    simp [wordy, placed, Screen.placed, Sequence.indexed, Sequence.indexed.indexedFrom,
      Component.label, Value.AbsentOrText]
  have noted : wordy.compile.map (fun flow => flow.diagnostics.map Diagnostic.component) =
      .ok ["guest_name_1", "stay_needs_2"] := by decide +kernel
  rcases map_eq_ok.mp noted with ⟨flow, compiled, notes⟩
  rcases labelled_of_compile textual compiled with ⟨captions, labelled⟩
  exact ⟨textual, flow, captions, compiled, labelled, notes⟩

end Schema

end ScreenFlow
