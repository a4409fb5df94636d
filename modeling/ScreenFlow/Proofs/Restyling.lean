import ScreenFlow.Proofs.Captions
import ScreenFlow.Proofs.Merging
import ScreenFlow.Proofs.Route
import ScreenFlow.Proofs.Wiring

namespace ScreenFlow

/-! Looks and wiring. Titles, texts, labels, options and whether an answer is required may be
changed at will: the form is refused as before or compiles as before, and its document keeps what it
says about data and ways. -/

open Outcome

/-! ## Forms that look different -/

/-- The components are of the same type and have the same name. -/
inductive Component.Restyled : Component → Component → Prop where
  | static {type : StaticType} {name text text' : Value} :
      Restyled (.static type text name) (.static type text' name)
  | input {type : InputType} {name label label' required required' : Value} :
      Restyled (.input type name label required) (.input type name label' required')
  | choice {type : ChoiceType} {name label label' required required' options options' : Value} :
      Restyled (.choice type name label required options)
        (.choice type name label' required' options')

/-- The screens have the same id, and their components differ in looks only. -/
structure Screen.Restyled (screen screen' : Screen) : Prop where
  id : screen.id = screen'.id
  components : List.Forall₂ Component.Restyled screen.components screen'.components

def Schema.Restyled (schema schema' : Schema) : Prop :=
  List.Forall₂ Screen.Restyled schema.screens schema'.screens

namespace Component.Restyled

variable {component component' : Component}

theorem wiredAs (restyled : component.Restyled component') : component.WiredAs component' := by
  cases restyled with
  | static => exact ⟨fun _ _ => rfl, rfl⟩
  | input => exact ⟨fun _ _ => rfl, rfl⟩
  | @choice type => exact ⟨fun _ _ => rfl, by cases type <;> rfl⟩

theorem widgetName? (restyled : component.Restyled component') (screen : Text) (position : Nat) :
    Placed.widgetName? ⟨screen, position, component⟩ =
      Placed.widgetName? ⟨screen, position, component'⟩ := by
  cases restyled <;> rfl

end Component.Restyled

namespace Screen.Restyled

variable {screen screen' : Screen}

theorem wiredAs (restyled : screen.Restyled screen') : screen.WiredAs screen' :=
  ⟨restyled.id, restyled.components.imp fun _ _ => Component.Restyled.wiredAs⟩

theorem widgetNames (restyled : screen.Restyled screen') :
    screen.placed.filterMap Placed.widgetName? = screen'.placed.filterMap Placed.widgetName? :=
  filterMap_eq_of_forall₂ (forall₂_placed restyled.id restyled.components fun _ _ _ both =>
    both.widgetName? _ _)

end Screen.Restyled

theorem Schema.Restyled.wiredAs {schema schema' : Schema} (restyled : schema.Restyled schema') :
    schema.WiredAs schema' :=
  List.Forall₂.imp (fun _ _ => Screen.Restyled.wiredAs) restyled

/-! ## Documents that are wired in the same way -/

/-- What a record says about data and ways, and the names of its widgets. -/
structure Wiring where
  id : Value
  data : Value
  footer : Value
  names : List Text
  deriving DecidableEq, Repr

def Wiring.ofRecord? (record : Value) : Option Wiring := do
  let id ← record.member? "id"
  let data ← record.member? "data"
  let footer ← (← Page.children? record).getLast?
  let captions ← Caption.ofRecord? record
  return { id, data, footer, names := captions.filterMap Caption.name }

def ScreenRecord.wiring (record : ScreenRecord) : Wiring :=
  { id := .text record.id, data := tableValue Placeholder.toValue record.data
    footer := record.footerValue
    names := record.widgets.filterMap fun widget => widget.caption.name }

theorem Wiring.ofRecord?_toValue (record : ScreenRecord) :
    ofRecord? record.toValue = some record.wiring := by
  have names : record.captions.filterMap Caption.name =
      record.widgets.filterMap fun widget => widget.caption.name := by
    rw [ScreenRecord.captions, List.filterMap_map]
    rfl
  simp only [ofRecord?, Page.id_record, Page.data_record, Page.children?_record,
    List.getLast?_concat, Caption.ofRecord?_toValue, names, Option.bind_eq_bind, Option.bind_some]
  rfl

/-- The documents have the same ways, and the same data and footers on all screens; what is noted
about either form is about a widget that both documents have. -/
structure CompiledFlow.WiredAs (flow flow' : CompiledFlow) : Prop where
  routing : ∃ routing, flow.document.toValue.routing? = some routing ∧
    flow'.document.toValue.routing? = some routing
  records : ∃ wirings, flow.document.toValue.records? Wiring.ofRecord? = some wirings ∧
    flow'.document.toValue.records? Wiring.ofRecord? = some wirings ∧
      ∀ note ∈ flow.diagnostics ++ flow'.diagnostics,
        ∃ wiring ∈ wirings, note.component ∈ wiring.names

namespace Schema

variable {schema schema' : Schema} {flow flow' : CompiledFlow}

theorem wirings_of_restyled (restyled : schema.Restyled schema')
    (compiled : schema.compile = .ok flow) (compiled' : schema'.compile = .ok flow') :
    flow.document.screens.map ScreenRecord.wiring =
      flow'.document.screens.map ScreenRecord.wiring := by
  have wired := restyled.wiredAs
  refine List.ext_getElem ?_ fun position inside inside' => ?_
  · rw [List.length_map, List.length_map, length_of_compile compiled, length_of_compile compiled',
      wired.length_eq]
  · rw [List.length_map, length_of_compile compiled] at inside
    rw [List.length_map, length_of_compile compiled'] at inside'
    rcases record_of_compile compiled (List.getElem?_eq_getElem inside) with ⟨part, made, record⟩
    rcases record_of_compile compiled' (List.getElem?_eq_getElem inside') with
      ⟨part', made', record'⟩
    have both : schema.screens[position].Restyled schema'.screens[position] :=
      restyled.get inside inside'
    have names := Screen.names_of_parts made
    rw [both.widgetNames, ← Screen.names_of_parts made'] at names
    rw [List.getElem_map, List.getElem_map, (List.getElem?_eq_some_iff.mp record).2,
      (List.getElem?_eq_some_iff.mp record').2]
    rw [recordAt, recordAt, wired.declared, wired.leaving position both.wiredAs, wired.length_eq,
      both.id]
    simp only [ScreenRecord.wiring, ScreenRecord.footerValue, names]

theorem wiredAs_of_restyled (restyled : schema.Restyled schema')
    (compiled : schema.compile = .ok flow) (compiled' : schema'.compile = .ok flow') :
    flow.WiredAs flow' := by
  have same := wirings_of_restyled restyled compiled compiled'
  have read := Page.records?_toValue Wiring.ofRecord?_toValue flow.document
  have read' := Page.records?_toValue Wiring.ofRecord?_toValue flow'.document
  refine ⟨⟨_, routing?_toValue flow.document, ?_⟩, ⟨_, read, by rw [same, read'], ?_⟩⟩
  · rw [routing_of_compile compiled, restyled.wiredAs.routing, ← routing_of_compile compiled']
    exact routing?_toValue flow'.document
  · intro note noted
    rcases List.mem_append.mp noted with noted | noted
    · rcases record_of_note compiled noted with ⟨record, member, named⟩
      exact ⟨_, List.mem_map_of_mem member, named⟩
    · rcases record_of_note compiled' noted with ⟨record, member, named⟩
      rw [same]
      exact ⟨_, List.mem_map_of_mem member, named⟩

theorem compile_eq_error_iff_of_spelled (spelled : schema.Spelled) {fault : Fault} :
    schema.compile = .error fault ↔ schema.validate = .error fault :=
  compile_eq_error_iff_of_parts (mapM_succeeds_iff.mpr fun screen among =>
    Screen.parts_succeed_of_spelled (spelled screen among))

/-- A form and one that differs from it in looks only are refused for the same reason, or compile to
documents that are wired in the same way. -/
theorem compile_of_restyled (restyled : schema.Restyled schema') (spelled : schema.Spelled)
    (spelled' : schema'.Spelled) :
    (∀ fault, schema.compile = .error fault ↔ schema'.compile = .error fault) ∧
      ∀ flow, schema.compile = .ok flow →
        ∃ flow', schema'.compile = .ok flow' ∧ flow.WiredAs flow' := by
  have same : ∀ fault, schema.compile = .error fault ↔ schema'.compile = .error fault := by
    intro fault
    rw [compile_eq_error_iff_of_spelled spelled, compile_eq_error_iff_of_spelled spelled',
      restyled.wiredAs.validate]
  refine ⟨same, fun flow compiled => ?_⟩
  cases compiled' : schema'.compile with
  | error fault =>
      rw [(same fault).mpr compiled'] at compiled
      cases compiled
  | ok flow' => exact ⟨flow', rfl, wiredAs_of_restyled restyled compiled compiled'⟩

def plain : Schema where
  screens := [
    ⟨"you", .text "You", [.static .heading (.text "Hello") (.text "greeting"),
      .input .input (.text "name") .null (.bool true)]⟩,
    ⟨"order", .text "", [.choice .checkbox (.text "sizes") (.text "Size") .null .null]⟩]

def fancy : Schema where
  screens := [
    ⟨"you", .null, [.static .heading .null (.text "greeting"),
      .input .input (.text "name") (.text "What shall we call you?") (.bool false)]⟩,
    ⟨"order", .text "Your order", [.choice .checkbox (.text "sizes")
      (.text "The sizes that you need") (.bool true) (.list [.text "S", .text "L", .text "S"])]⟩]

theorem fancy_wiredAs_plain :
    plain.Restyled fancy ∧ plain.Spelled ∧ fancy.Spelled ∧
      ∃ flow flow', plain.compile = .ok flow ∧ fancy.compile = .ok flow' ∧ flow.WiredAs flow' := by
  have restyled : plain.Restyled fancy :=
    .cons ⟨rfl, .cons .static (.cons .input .nil)⟩ (.cons ⟨rfl, .cons .choice .nil⟩ .nil)
  have spelled : plain.Spelled := by
    simp [Spelled, plain, Component.Spelled, Value.AbsentOrText, Value.AbsentOrTexts]
  have spelled' : fancy.Spelled := by
    have sizes : (Value.list [.text "S", .text "L", .text "S"]).AbsentOrTexts :=
      .inr ⟨["S", "L", "S"], rfl⟩
    simp [Spelled, fancy, Component.Spelled, Value.AbsentOrText, sizes]
  have valid : plain.validate = .ok () := by decide +kernel
  refine ⟨restyled, spelled, spelled', ?_⟩
  have both := compile_of_restyled restyled spelled spelled'
  cases compiled : plain.compile with
  | error fault =>
      rw [compile_eq_error_iff_of_spelled spelled, valid] at compiled
      cases compiled
  | ok flow =>
      rcases both.2 flow compiled with ⟨flow', compiled', wired⟩
      exact ⟨flow, flow', rfl, compiled', wired⟩

end Schema

end ScreenFlow
