import ScreenFlow.Proofs.Carrying
import ScreenFlow.Proofs.Route

namespace ScreenFlow

/-! Compiled documents as values. All of their tables have distinct keys, so a property that passes
from collections to their parts and back holds of a compiled document exactly if it holds of the
values that the document takes over from its form. -/

theorem field_snd (name : Text) (value : Value) : (field name value).2 = value := rfl

namespace Value.Structural

section Fields

variable {holds : Value → Prop} {entries fields : List (Value × Value)}

theorem of_text (structural : Structural fun _ => holds) {value : Value}
    (text : value.text?.isSome = true) : holds value := by
  cases value with
  | text content => exact structural.text 0 content
  | _ => cases text

theorem map_iff (structural : Structural fun _ => holds) (distinct : (entries.map Prod.fst).Nodup)
    (texts : ∀ entry ∈ entries, entry.1.text?.isSome = true) :
    holds (.map entries) ↔ ∀ entry ∈ entries, holds entry.2 := by
  constructor
  · exact structural.entries 0 entries
  · intro each
    exact structural.fields 0 entries distinct fun entry member =>
      ⟨texts entry member, structural.of_text (texts entry member), each entry member⟩

theorem map_iff_of_sublist (structural : Structural fun _ => holds)
    (sublist : entries.Sublist fields) (distinct : (fields.map Prod.fst).Nodup)
    (texts : ∀ entry ∈ fields, entry.1.text?.isSome = true) :
    holds (.map entries) ↔ ∀ entry ∈ entries, holds entry.2 :=
  structural.map_iff (distinct.sublist (sublist.map Prod.fst)) fun entry member =>
    texts entry (sublist.subset member)

theorem optionalField_iff (structural : Structural fun _ => holds) {name : Text}
    {value : Value} : (∀ entry ∈ optionalField name value, holds entry.2) ↔ holds value := by
  rw [optionalField]
  split
  · next absent => simp [Value.isNull_iff.mp absent, structural.null 0]
  · simp [field]

end Fields

end Value.Structural

open Value

section Documents

variable {holds : Value → Prop}

theorem holds_tableValue (structural : Structural fun _ => holds) {α : Type} {toValue : α → Value}
    {table : List (Text × α)} (distinct : (Ordered.keys table).Nodup)
    (each : ∀ value, holds (toValue value)) : holds (tableValue toValue table) := by
  have keys : ((table.map fun entry => field entry.1 (toValue entry.2)).map Prod.fst).Nodup := by
    have texts := distinct.map (f := Value.text) fun _ _ same => Value.text.inj same
    simpa [Ordered.keys, field, Function.comp_def] using texts
  apply structural.fields 0 _ keys
  rw [List.forall_mem_map]
  exact fun entry _ => ⟨rfl, structural.text 0 entry.1, each entry.2⟩

/-! ## Widgets -/

/-- The values that a widget takes over from its component. -/
def Widget.given : Widget → List Value
  | .display _ content => [content]
  | .input _ label _ required => [label, required]
  | .choice _ label _ required source =>
      label :: (source.elim [] fun choices => choices.flatMap fun choice => [choice.title]) ++
        [required]

theorem Choice.holds_toValue_iff (structural : Structural fun _ => holds) (choice : Choice) :
    holds choice.toValue ↔ holds choice.title := by
  rw [Choice.toValue, structural.map_iff (by simp [field]) (by simp [field, text?])]
  simp [field, structural.text 0]

theorem Widget.holds_toValue_iff (structural : Structural fun _ => holds) (widget : Widget) :
    holds widget.toValue ↔ ∀ value ∈ widget.given, holds value := by
  have text := structural.text 0
  rw [toValue_eq]
  cases widget with
  | display type content =>
      have sublist := (optionalField_sublist "text" content).append_right []
      rw [fields, structural.map_iff_of_sublist (sublist.cons_cons _) (by simp [field])
        (by simp [field, text?]), List.forall_mem_cons, List.forall_mem_append,
        structural.optionalField_iff]
      simp [given, field, text]
  | input type label name required =>
      have kinds : (if type = .input then [field "input-type" (.text "text")] else []).Sublist
          [field "input-type" (.text "text")] := by
        split
        · exact List.Sublist.refl _
        · exact List.nil_sublist _
      have sublist := (optionalField_sublist "label" label).append
        (kinds.append_left [field "name" (.text name), field "required" required])
      rw [fields, structural.map_iff_of_sublist (sublist.cons_cons _) (by simp [field])
        (by simp [field, text?]), List.forall_mem_cons, List.forall_mem_append,
        structural.optionalField_iff]
      split <;> simp [given, field, text]
  | choice type label name required source =>
      have labelled := optionalField_sublist "label" label
      cases source with
      | none =>
          rw [fields, structural.map_iff_of_sublist ((labelled.append_right _).cons_cons _)
            (by simp [field]) (by simp [field, text?]), List.forall_mem_cons,
            List.forall_mem_append, structural.optionalField_iff]
          simp [given, field, text]
      | some choices =>
          have titles : holds (.list (choices.map Choice.toValue)) ↔
              ∀ choice ∈ choices, holds choice.title := by
            rw [structural.items 0, List.forall_mem_map]
            exact forall₂_congr fun choice _ => choice.holds_toValue_iff structural
          rw [fields, structural.map_iff_of_sublist ((labelled.append_right _).cons_cons _)
            (by simp [field]) (by simp [field, text?]), List.forall_mem_cons,
            List.forall_mem_append, structural.optionalField_iff]
          simp [given, field, text, titles, ← List.map_eq_flatMap, or_imp, forall_and]

/-! ## Records -/

/-- The values that a record takes over from its screen. -/
def ScreenRecord.given (record : ScreenRecord) : List Value :=
  record.title :: record.widgets.flatMap Widget.given

/-- The values that a document takes over from its form. -/
def FlowDocument.given (document : FlowDocument) : List Value :=
  document.screens.flatMap ScreenRecord.given

theorem Placeholder.holds_toValue (structural : Structural fun _ => holds)
    (placeholder : Placeholder) : holds placeholder.toValue := by
  have text := structural.text 0
  have kind : holds (.map [field "type" (.text "string")]) := by
    rw [structural.map_iff (by simp [field]) (by simp [field, text?])]
    simp [field, text]
  cases placeholder with
  | text =>
      rw [toValue, structural.map_iff (by simp [field]) (by simp [field, text?])]
      simp [field, text]
  | texts =>
      rw [toValue, structural.map_iff (by simp [field]) (by simp [field, text?])]
      simp [field_snd, text, kind, structural.items 0]

theorem Action.holds_toValue (structural : Structural fun _ => holds) {action : Action}
    (distinct : (Ordered.keys action.payload).Nodup) : holds action.toValue := by
  have text := structural.text 0
  have handed : holds (tableValue Reference.toValue action.payload) :=
    holds_tableValue structural distinct fun reference => text reference.render
  cases action with
  | navigate next table =>
      have place : holds (.map [field "type" (.text "screen"), field "name" (.text next)]) := by
        rw [structural.map_iff (by simp [field]) (by simp [field, text?])]
        simp [field, text]
      rw [payload] at handed
      rw [toValue, structural.map_iff (by simp [field]) (by simp [field, text?])]
      simp [field_snd, text, place, handed]
  | complete table =>
      rw [payload] at handed
      rw [toValue, structural.map_iff (by simp [field]) (by simp [field, text?])]
      simp [field_snd, text, handed]

namespace ScreenRecord

structure Distinct (record : ScreenRecord) : Prop where
  declared : (Ordered.keys record.data).Nodup
  handedOn : (Ordered.keys record.action.payload).Nodup

theorem holds_footerValue (structural : Structural fun _ => holds) {record : ScreenRecord}
    (distinct : record.Distinct) : holds record.footerValue := by
  rw [footerValue, structural.map_iff (by simp [field]) (by simp [field, text?])]
  simp [field, structural.text 0, Action.holds_toValue structural distinct.handedOn]

theorem holds_toValue_iff (structural : Structural fun _ => holds) {record : ScreenRecord}
    (distinct : record.Distinct) :
    holds record.toValue ↔ ∀ value ∈ record.given, holds value := by
  have text := structural.text 0
  have declared := holds_tableValue structural distinct.declared
    (Placeholder.holds_toValue structural)
  have children : holds (.list (record.widgets.map Widget.toValue ++ [record.footerValue])) ↔
      ∀ widget ∈ record.widgets, ∀ value ∈ widget.given, holds value := by
    rw [structural.items 0, List.forall_mem_append, List.forall_mem_map, List.forall_mem_singleton,
      and_iff_left (holds_footerValue structural distinct)]
    exact forall₂_congr fun widget _ => widget.holds_toValue_iff structural
  have form : holds (.map [field "type" (.text "Form"), field "name" (.text "flow_path"),
      field "children" (.list (record.widgets.map Widget.toValue ++ [record.footerValue]))]) ↔
        ∀ widget ∈ record.widgets, ∀ value ∈ widget.given, holds value := by
    rw [structural.map_iff (by simp [field]) (by simp [field, text?]), ← children]
    simp [field, text]
  have layout : holds (.map [field "type" (.text "SingleColumnLayout"), field "children" (.list
      [.map [field "type" (.text "Form"), field "name" (.text "flow_path"),
        field "children" (.list (record.widgets.map Widget.toValue ++ [record.footerValue]))]])]) ↔
          ∀ widget ∈ record.widgets, ∀ value ∈ widget.given, holds value := by
    rw [structural.map_iff (by simp [field]) (by simp [field, text?]), ← form]
    simp [field_snd, text, structural.items 0]
  rw [given, List.forall_mem_cons, List.forall_mem_flatMap, toValue,
    structural.map_iff (by simp [field]) (by simp [field, text?])]
  simp [field_snd, text, structural.bool 0, declared, layout]

end ScreenRecord

namespace Schema

variable {schema : Schema} {flow : CompiledFlow}

theorem distinct_record_of_compile (compiled : schema.compile = .ok flow) :
    ∀ record ∈ flow.document.screens, record.Distinct := by
  intro record member
  rcases List.mem_iff_getElem?.mp member with ⟨position, there⟩
  have inside : position < schema.screens.length := by
    rw [← length_of_compile compiled]
    exact (List.getElem?_eq_some_iff.mp there).1
  have found := List.getElem?_eq_getElem inside
  rcases record_of_compile compiled found with ⟨part, -, same⟩
  rcases Option.some.inj (there.symm.trans same) with rfl
  have keyed := (compile_eq_ok_iff.mp compiled).2.1
  constructor
  · rw [recordAt, declared, Screen.keys_keyed_map]
    exact keyed.distinct_take position
  · rw [recordAt, payload_leaving, handedOn, Ordered.keys_append, Screen.keys_keyed_map,
      Screen.keys_keyed_map, ← Ordered.keys_append]
    exact keyed.distinct_through found

theorem holds_document_iff (structural : Structural fun _ => holds)
    (compiled : schema.compile = .ok flow) :
    holds flow.document.toValue ↔ ∀ value ∈ flow.document.given, holds value := by
  have text := structural.text 0
  have distinct : (Ordered.keys flow.document.routing).Nodup := by
    rw [routing_of_compile compiled]
    exact distinct_routing (distinct_of_compile compiled)
  have edge (next : Text) : holds (.list [.text next]) := by
    simp [structural.items 0, text]
  have routing := holds_tableValue structural distinct edge
  have records : holds (.list (flow.document.screens.map ScreenRecord.toValue)) ↔
      ∀ record ∈ flow.document.screens, ∀ value ∈ record.given, holds value := by
    rw [structural.items 0, List.forall_mem_map]
    exact forall₂_congr fun record member =>
      ScreenRecord.holds_toValue_iff structural (distinct_record_of_compile compiled record member)
  rw [FlowDocument.given, List.forall_mem_flatMap, FlowDocument.toValue,
    structural.map_iff (by simp [field]) (by simp [field, text?])]
  simp [field_snd, text, routing, records]

end Schema

end Documents

end ScreenFlow
