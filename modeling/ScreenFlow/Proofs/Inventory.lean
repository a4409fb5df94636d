import ScreenFlow.Proofs.Agreement
import ScreenFlow.Proofs.Contract

namespace ScreenFlow

/-! The analysis of a form and its compiled document. The two go through the form separately; what
one counts, the other shows. -/

open Outcome

/-! ## Records -/

/-- What there is to count in the record of a screen. -/
structure Tally where
  id : Text
  declared : List Text
  terminal : Bool
  handedOn : List Text
  widgets : List Value
  deriving DecidableEq, Repr

namespace Tally

def ofRecord? (record : Value) : Option Tally := do
  let id ← (← record.member? "id").text?
  let terminal ← (← record.member? "terminal").flag?
  let exchange ← Exchange.ofRecord? record
  let form ← (← (← (← record.member? "layout").member? "children").items?).head?
  let children ← (← form.member? "children").items?
  return { id, terminal, widgets := children.dropLast
           declared := Ordered.keys exchange.declared
           handedOn := Ordered.keys exchange.handedOn }

def bareName? (widget : Value) : Option Text := do
  let type ← (← widget.member? "type").text?
  let name ← (← widget.member? "name").text?
  let source := (widget.member? "data-source").getD (.list [])
  let choices : List Text := ["RadioButtonsGroup", "Dropdown", "CheckboxGroup"]
  if choices.contains type && source == .list [] then some name
  else none

theorem bareName?_toValue (widget : Widget) : bareName? widget.toValue = widget.bareName? := by
  cases widget with
  | display type text =>
      cases type <;> cases absent : text.isNull <;>
        simp [bareName?, Widget.toValue, Widget.bareName?, optionalField, absent, Value.member?,
          Value.lookup?, field, Value.text?]
  | input type label name required =>
      cases type <;> cases absent : label.isNull <;>
        simp [bareName?, Widget.toValue, Widget.bareName?, optionalField, absent, Value.member?,
          Value.lookup?, field, Value.text?, ComponentType.widget]
  | choice type label name required source =>
      cases source <;> cases type <;> cases absent : label.isNull <;>
        simp [bareName?, Widget.toValue, Widget.bareName?, optionalField, absent, Value.member?,
          Value.lookup?, field, Value.text?, ComponentType.widget]

end Tally

def ScreenRecord.tally (record : ScreenRecord) : Tally where
  id := record.id
  declared := Ordered.keys record.data
  terminal := record.terminal
  handedOn := Ordered.keys record.action.payload
  widgets := record.widgets.map Widget.toValue

theorem Tally.ofRecord?_toValue (record : ScreenRecord) :
    ofRecord? record.toValue = some record.tally := by
  simp only [ofRecord?, Exchange.ofRecord?_toValue]
  simp [ScreenRecord.toValue, ScreenRecord.exchange, Value.member?, Value.lookup?, field,
    Value.text?, Value.flag?, Value.items?, ScreenRecord.tally, Ordered.keys, Function.comp_def]

/-! ## Forms -/

namespace Report

/-- The report tells what the records of a document and the notes show. -/
structure Tells (report : Report) (tallies : List Tally) (notes : List Diagnostic) : Prop where
  screens : report.totalScreens = tallies.length
  inbound : report.inbound = tallies.map fun tally => (tally.id, tally.declared.length)
  terminal : ∃ last, tallies.filter Tally.terminal = [last] ∧ report.terminal = some last.id ∧
    report.totalFields = last.handedOn.length
  components : report.totalComponents = (tallies.flatMap Tally.widgets).length
  truncated : report.truncatedLabels = notes.map Diagnostic.component
  bare : report.choicesWithoutOptions = tallies.flatMap fun tally =>
    tally.widgets.filterMap Tally.bareName?
  empty : report.emptyScreens = (tallies.filter fun tally => tally.widgets.isEmpty).map Tally.id
  oversized : report.oversizedScreens = []
  duplicates : report.duplicateIds = []

end Report

namespace Schema

variable {schema : Schema} {flow : CompiledFlow}

def Built (schema : Schema) : Prop := ∀ placed ∈ schema.placed, placed.component.Built

theorem named_of_mem (named : ∀ placed ∈ schema.placed, placed.component.Named) {screen : Screen}
    (among : screen ∈ schema.screens) : ∀ placed ∈ screen.placed, placed.component.Named :=
  fun placed inside => named placed (List.mem_flatMap.mpr ⟨screen, among, inside⟩)

theorem analyzable_of_compile (named : ∀ placed ∈ schema.placed, placed.component.Named)
    (compiled : schema.compile = .ok flow) : ∀ placed ∈ schema.placed, placed.Analyzable := by
  rcases compile_eq_ok_iff.mp compiled with ⟨-, keyed, parts, stepped, -⟩
  intro placed member
  rcases succeeds_parts_iff.mp ⟨parts, stepped⟩ placed member with ⟨part, made⟩
  have shows := Placed.shows_of_compiled (named placed member) made
  exact ⟨keyed.nameable placed member, fun _ => shows.measurable⟩

theorem keys_inboundFrom (before : Nat) (entries : List (Text × FieldFindings)) :
    Ordered.keys (inboundFrom before entries) = entries.map Prod.fst := by
  induction entries generalizing before with
  | nil => rfl
  | cons entry entries induction =>
      rw [inboundFrom, Ordered.keys_cons, induction, List.map_cons]

theorem inbound_of_compile (compiled : schema.compile = .ok flow) :
    schema.survey.inbound = flow.document.screens.map fun record =>
      (record.id, record.tally.declared.length) := by
  have distinct : (Ordered.keys (inboundFrom 0 (schema.screens.map fun screen =>
      (screen.id, FieldFindings.about screen.placed)))).Nodup := by
    rw [keys_inboundFrom, List.map_map]
    exact distinct_of_compile compiled
  rw [survey, Ordered.ofEntries_of_nodup distinct]
  apply List.ext_getElem?
  intro position
  have seen : (flow.document.screens.map fun record =>
      (record.id, record.tally.declared.length))[position]? =
        schema.screens[position]?.map fun screen =>
          (screen.id, (Screen.keyed (schema.screens.take position)).length) := by
    apply view_of_compile compiled
    intro position screen widgets
    simp [recordAt, ScreenRecord.tally, declared, Ordered.keys]
  rw [getElem?_inboundFrom, seen]
  simp only [Nat.zero_add]

theorem filter_eq_last {α : Type} {elements : List α} {flag : α → Bool} {last : α}
    (there : elements.getLast? = some last)
    (flags : ∀ position element, elements[position]? = some element →
      flag element = decide (position + 1 = elements.length)) : elements.filter flag = [last] := by
  rcases List.getLast?_eq_some_iff.mp there with ⟨front, rfl⟩
  have others : front.filter flag = [] := by
    rw [List.filter_eq_nil_iff]
    intro element member
    rcases List.mem_iff_getElem.mp member with ⟨position, inside, rfl⟩
    have found : (front ++ [last])[position]? = some front[position] := by
      rw [List.getElem?_append_left inside, List.getElem?_eq_getElem inside]
    rw [flags position _ found, List.length_append, List.length_singleton]
    simpa using Nat.ne_of_lt inside
  have flagged : flag last = true := by
    rw [flags front.length last (by simp)]
    simp
  rw [List.filter_append, others, List.filter_singleton, flagged]
  rfl

theorem terminal_of_compile (compiled : schema.compile = .ok flow) :
    ∃ last, flow.document.screens.filter ScreenRecord.terminal = [last] ∧
      schema.survey.terminal = some last.id ∧
        schema.survey.totalFields = last.tally.handedOn.length := by
  have length := length_of_compile compiled
  have final : ∃ position screen, schema.screens[position]? = some screen ∧
      schema.screens.length = position + 1 := by
    have nonempty := length_pos_of_compile compiled
    exact ⟨_, _, List.getElem?_eq_getElem (Nat.sub_lt nonempty Nat.zero_lt_one), by omega⟩
  rcases final with ⟨position, screen, found, total⟩
  rcases record_of_compile compiled found with ⟨part, -, there⟩
  refine ⟨schema.recordAt position screen part.1, filter_eq_last ?_ ?_, ?_, ?_⟩
  · rw [List.getLast?_eq_getElem?, length, total]
    exact there
  · intro place record held
    have flags : (flow.document.screens.map ScreenRecord.terminal)[place]? =
        schema.screens[place]?.map fun _ => decide (place + 1 = schema.screens.length) := by
      apply view_of_compile compiled
      exact fun _ _ _ => rfl
    rw [List.getElem?_map, held] at flags
    rcases Option.map_eq_some_iff.mp flags.symm with ⟨_, -, same⟩
    rw [← same, length]
  · rw [survey, List.getLast?_map, List.getLast?_eq_getElem?, total, Nat.add_sub_cancel, found]
    rfl
  · have all : schema.screens = schema.screens.take position ++ [screen] := by
      rw [← take_succ_of_found found, ← total, List.take_length]
    conv_lhs => rw [survey, all, Screen.keyed_append]
    simp [ScreenRecord.tally, recordAt, handedOn, Ordered.keys]

theorem map_of_compile (named : ∀ placed ∈ schema.placed, placed.component.Named)
    (compiled : schema.compile = .ok flow) {view : ScreenRecord → α} {look : Screen → α}
    (same : ∀ position screen part, screen.Shows part →
      view (schema.recordAt position screen part.1) = look screen) :
    flow.document.screens.map view = schema.screens.map look := by
  apply List.ext_getElem?
  intro position
  rw [List.getElem?_map, List.getElem?_map]
  cases found : schema.screens[position]? with
  | none =>
      rw [List.getElem?_eq_none_iff, ← length_of_compile compiled] at found
      rw [List.getElem?_eq_none found]
      rfl
  | some screen =>
      rcases record_of_compile compiled found with ⟨part, made, there⟩
      have among := named_of_mem named (List.mem_of_getElem? found)
      rw [there, Option.map_some, same _ _ _ (Screen.shows_of_parts among made), Option.map_some]

theorem truncated_of_compile (named : ∀ placed ∈ schema.placed, placed.component.Named)
    (compiled : schema.compile = .ok flow) :
    schema.survey.truncatedLabels = flow.diagnostics.map Diagnostic.component := by
  rcases compile_eq_ok_iff.mp compiled with ⟨-, -, parts, stepped, rfl⟩
  have each := forall₂_of_mapM stepped fun screen among part made =>
    (Screen.shows_of_parts (named_of_mem named among) made).notes
  calc schema.survey.truncatedLabels
      = (schema.screens.map fun screen => screen.placed.filterMap Placed.longKey?).flatten := by
        rw [← List.flatMap_def, ← List.filterMap_flatMap]
        rfl
    _ = (parts.map fun part => part.2.map Diagnostic.component).flatten := by
        rw [map_eq_of_forall₂ each]
    _ = (schema.flowWith parts).diagnostics.map Diagnostic.component := by
        rw [← List.flatMap_def, ← List.map_flatMap]
        rfl

theorem emptyScreens_of_compile (named : ∀ placed ∈ schema.placed, placed.component.Named)
    (compiled : schema.compile = .ok flow) :
    schema.survey.emptyScreens =
      (flow.document.screens.filter fun record => record.tally.widgets.isEmpty).map
        ScreenRecord.id := by
  have pairs : (flow.document.screens.map fun record =>
      (record.id, record.tally.widgets.isEmpty)) =
        schema.screens.map fun screen => (screen.id, screen.components.isEmpty) :=
    map_of_compile named compiled (fun position screen part shows => by
      have size := shows.size
      rw [Screen.length_placed] at size
      have empty : part.1.isEmpty = screen.components.isEmpty := by
        rw [Bool.eq_iff_iff, List.isEmpty_iff_length_eq_zero, List.isEmpty_iff_length_eq_zero, size]
      simp [ScreenRecord.tally, recordAt, empty])
  have chosen := congrArg (fun pairs => (pairs.filter Prod.snd).map Prod.fst) pairs
  simp only [List.filter_map, List.map_map] at chosen
  exact chosen.symm

theorem tells_of_compile (named : ∀ placed ∈ schema.placed, placed.component.Named)
    (compiled : schema.compile = .ok flow) :
    schema.survey.Tells (flow.document.screens.map ScreenRecord.tally) flow.diagnostics := by
  have fits := (compile_eq_ok_iff.mp compiled).1
  have sizes : (flow.document.screens.map fun record => record.tally.widgets.length) =
      schema.screens.map fun screen => screen.placed.length :=
    map_of_compile named compiled (fun _ _ _ shows => by
      simp [ScreenRecord.tally, recordAt, shows.size])
  have bare : (flow.document.screens.map fun record =>
      record.tally.widgets.filterMap Tally.bareName?) =
        schema.screens.map fun screen => screen.placed.filterMap Placed.bareKey? :=
    map_of_compile named compiled (fun _ _ _ shows => by
      simp [ScreenRecord.tally, recordAt, shows.bare, Tally.bareName?_toValue])
  rcases terminal_of_compile compiled with ⟨last, only, terminal, fields⟩
  constructor
  case screens => rw [List.length_map, length_of_compile compiled, survey]
  case inbound => rw [inbound_of_compile compiled, List.map_map]; rfl
  case terminal =>
    refine ⟨last.tally, ?_, terminal, fields⟩
    rw [List.filter_map]
    exact congrArg (List.map ScreenRecord.tally) only
  case components =>
    rw [List.flatMap_map, List.length_flatMap, survey, placed, List.length_flatMap, ← sizes]
  case truncated => exact truncated_of_compile named compiled
  case bare =>
    rw [List.flatMap_map, List.flatMap_def, bare, ← List.flatMap_def, ← List.filterMap_flatMap]
    rfl
  case empty =>
    rw [emptyScreens_of_compile named compiled, List.filter_map, List.map_map]
    rfl
  case oversized => exact oversizedScreens_of_fits fits
  case duplicates => exact duplicateIds_of_fits fits

/-- The analysis of a form that compiles tells what the compiled document and the notes show. -/
theorem inventory_of_compile (built : schema.Built) (compiled : schema.compile = .ok flow) :
    ∃ report tallies, schema.analyze = .ok report ∧
      flow.document.toValue.records? Tally.ofRecord? = some tallies ∧
        report.Tells tallies flow.diagnostics := by
  have named := fun placed member => Component.named_of_built (built placed member)
  have tells := tells_of_compile named compiled
  refine ⟨_, _, analyze_eq_ok_iff.mpr ⟨analyzable_of_compile named compiled, rfl⟩,
    Page.records?_toValue Tally.ofRecord?_toValue flow.document, ?_⟩
  rw [Report.foldl_addWarning_eq]
  exact { tells with }

def flawed : Schema where
  screens := [
    ⟨"a", .text "", [
      .input .input (.text "name") (.text "Your name as it is to be shown") (.bool true),
      .choice .radio (.text "size") (.text "Size") (.bool false) (.list [])]⟩,
    ⟨"b", .text "", []⟩]

theorem flawed_inventory :
    flawed.Built ∧ ∃ flow, flawed.compile = .ok flow ∧
      flow.diagnostics.map Diagnostic.component = ["a_name_0"] ∧
        ∃ report tallies, flawed.analyze = .ok report ∧
          flow.document.toValue.records? Tally.ofRecord? = some tallies ∧
            report.Tells tallies flow.diagnostics := by
  have components : flawed.placed = [
      ⟨"a", 0, .input .input (.text "name") (.text "Your name as it is to be shown") (.bool true)⟩,
      ⟨"a", 1, .choice .radio (.text "size") (.text "Size") (.bool false) (.list [])⟩] := rfl
  have built : flawed.Built := by
    rw [Built, components, List.forall_mem_cons, List.forall_mem_singleton]
    constructor
    · exact ⟨.input, .input .input, ⟨.null, .text "name", .text "Your name as it is to be shown",
        .bool true, .null⟩, rfl⟩
    · exact ⟨.choice, .choice .radio, ⟨.null, .text "size", .text "Size", .bool false, .list []⟩,
        rfl⟩
  have noted : flawed.compile.map (fun flow => flow.diagnostics.map Diagnostic.component) =
      .ok ["a_name_0"] := by decide +kernel
  rcases map_eq_ok.mp noted with ⟨flow, compiled, notes⟩
  exact ⟨built, flow, compiled, notes, inventory_of_compile built compiled⟩

end Schema

end ScreenFlow
