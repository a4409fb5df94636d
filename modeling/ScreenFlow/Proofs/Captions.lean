import ScreenFlow.Proofs.Page
import ScreenFlow.Proofs.Widgets

namespace ScreenFlow

/-! What the widgets of a document are called and how they are labelled. A field is called by its
key and labelled with what is shown of its label; the widget of a static component has neither. -/

open Outcome

/-- The name and the label of a widget, as far as it has them. -/
structure Caption where
  name : Option Text
  label : Option Value
  deriving DecidableEq, Repr

namespace Caption

def ofChild (child : Value) : Caption :=
  { name := (child.member? "name").bind Value.text?, label := child.member? "label" }

/-- The captions of the widgets of a record. The last child of its form is the footer. -/
def ofRecord? (record : Value) : Option (List Caption) :=
  (Page.children? record).map fun children => children.dropLast.map ofChild

end Caption

namespace Widget

def caption : Widget → Caption
  | .display _ _ => { name := none, label := none }
  | .input _ label name _ | .choice _ label name _ _ =>
      { name := some name, label := if label.isNull then none else some label }

theorem ofChild_toValue (widget : Widget) : Caption.ofChild widget.toValue = widget.caption := by
  cases widget with
  | display type text =>
      cases absent : text.isNull <;>
        simp [Caption.ofChild, caption, toValue, optionalField, absent, Value.member?,
          Value.lookup?, field, Value.text?]
  | input type label name required =>
      cases type <;> cases absent : label.isNull <;>
        simp [Caption.ofChild, caption, toValue, optionalField, absent, Value.member?,
          Value.lookup?, field, Value.text?]
  | choice type label name required source =>
      cases source <;> cases absent : label.isNull <;>
        simp [Caption.ofChild, caption, toValue, optionalField, absent, Value.member?,
          Value.lookup?, field, Value.text?]

end Widget

def ScreenRecord.captions (record : ScreenRecord) : List Caption :=
  record.widgets.map Widget.caption

theorem Caption.ofRecord?_toValue (record : ScreenRecord) :
    ofRecord? record.toValue = some record.captions := by
  rw [ofRecord?, Page.children?_record, Option.map_some, List.dropLast_concat, List.map_map,
    ScreenRecord.captions]
  simp only [Function.comp_def, Widget.ofChild_toValue]

/-! ## Fields -/

namespace Placed

def widgetName? (placed : Placed) : Option Text :=
  match placed.component with
  | .input _ name _ _ | .choice _ name _ _ _ =>
      name.text?.map fun name => Naming.joinKey placed.screen name (toString placed.position)
  | _ => none

variable {placed : Placed} {part : Widget × Option Diagnostic}

theorem name_of_compiled (made : placed.compiled = .ok part) :
    part.1.caption.name = placed.widgetName? := by
  rcases placed with ⟨screen, position, component⟩
  cases Component.compile_eq_ok_iff.mp made with
  | static => rfl
  | input named cut noted =>
      rcases Naming.qualifiedName_eq_ok_iff.mp named with ⟨name, rfl, rfl⟩
      rfl
  | choice named cut noted listed =>
      rcases Naming.qualifiedName_eq_ok_iff.mp named with ⟨name, rfl, rfl⟩
      rfl

theorem name_of_note (made : placed.compiled = .ok part) {note : Diagnostic}
    (noted : part.2 = some note) : part.1.caption.name = some note.component := by
  have component {screen label shown : Value} {key : Text}
      (noted : Diagnostic.ofLabel? screen key label shown = .ok (some note)) :
      note.component = key := by
    rw [Diagnostic.ofLabel?] at noted
    split at noted
    · cases noted
    · rcases bind_eq_ok.mp noted with ⟨text, -, noted⟩
      rcases Option.some.inj (pure_eq_ok.mp noted) with rfl
      rfl
  rcases placed with ⟨screen, position, component⟩
  cases Component.compile_eq_ok_iff.mp made with
  | static => cases noted
  | input named cut report =>
      rcases noted with rfl
      exact congrArg some (component report).symm
  | choice named cut report listed =>
      rcases noted with rfl
      exact congrArg some (component report).symm

end Placed

namespace Screen

variable {screen : Screen} {part : List Widget × List Diagnostic}

theorem names_of_parts (made : screen.parts = .ok part) :
    (part.1.filterMap fun widget => widget.caption.name) =
      screen.placed.filterMap Placed.widgetName? := by
  rcases parts_eq_ok_iff.mp made with ⟨parts, each, rfl⟩
  rw [List.filterMap_map]
  exact (filterMap_eq_of_forall₂ (each.imp fun _ _ made =>
    (Placed.name_of_compiled made).symm)).symm

theorem mem_names_of_note (made : screen.parts = .ok part) {note : Diagnostic}
    (noted : note ∈ part.2) :
    note.component ∈ part.1.filterMap fun widget => widget.caption.name := by
  rcases parts_eq_ok_iff.mp made with ⟨parts, each, rfl⟩
  rcases List.mem_filterMap.mp noted with ⟨part, member, noted⟩
  rcases exists_of_forall₂ each member with ⟨placed, -, made⟩
  rw [List.filterMap_map, List.mem_filterMap]
  exact ⟨part, member, Placed.name_of_note made noted⟩

end Screen

theorem Schema.record_of_note {schema : Schema} {flow : CompiledFlow}
    (compiled : schema.compile = .ok flow) {note : Diagnostic} (noted : note ∈ flow.diagnostics) :
    ∃ record ∈ flow.document.screens,
      note.component ∈ record.widgets.filterMap fun widget => widget.caption.name := by
  rcases compile_eq_ok_iff.mp compiled with ⟨-, -, parts, stepped, same⟩
  have listed : flow.diagnostics = parts.flatMap Prod.snd := by rw [same, flowWith]
  rw [listed] at noted
  rcases List.mem_flatMap.mp noted with ⟨part, member, noted⟩
  rcases of_mem_of_mapM stepped member with ⟨screen, among, made⟩
  rcases List.mem_iff_getElem?.mp among with ⟨position, found⟩
  rcases record_of_compile compiled found with ⟨part', made', record⟩
  rw [made, Except.ok.injEq] at made'
  rw [← made'] at record
  exact ⟨_, List.mem_of_getElem? record, Screen.mem_names_of_note made noted⟩

end ScreenFlow
