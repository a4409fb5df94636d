import ScreenFlow.Proofs.Merging
import ScreenFlow.Proofs.Route

namespace ScreenFlow

/-! How far a screen sees. A screen that is not the last is compiled from the screens up to it and
the id of the one that it leads to, so that nothing that comes later can change it. -/

open Outcome

def Screen.assembleBetween (before : List Screen) (screen : Screen) (next : Text) :
    Except Fault AssembledScreen := do
  let (widgets, diagnostics) ← screen.parts
  let payload ← screen.payload (before ++ [screen])
  let data ← contracts before
  return {
    record := { id := screen.id, title := screen.title, data, terminal := false, widgets
                action := .navigate next payload }
    edge := some (screen.id, next), diagnostics }

namespace Schema

variable {schema schema' : Schema} {position earlier : Nat} {screen next : Screen}

theorem assemble_of_next (found : schema.screens[position]? = some screen)
    (follows : schema.screens[position + 1]? = some next) :
    schema.assemble position =
      screen.assembleBetween (schema.screens.take position) next.id := by
  have inside := (List.getElem?_eq_some_iff.mp follows).1
  have inner : ¬ ((position : Int) = (schema.screens.length : Int) - 1) := by omega
  have edge : schema.edge? position = some (screen.id, next.id) := by
    rw [edge?_eq found, follows, Option.map_some]
  have through : Sequence.upTo schema.screens ((position : Int) + 1) =
      schema.screens.take position ++ [screen] := by
    rw [← take_succ_of_found found]
    exact Sequence.upTo_ofNat schema.screens (position + 1)
  rw [assemble, Screen.assembleBetween, Sequence.at?_ofNat, found, edge,
    Sequence.upTo_ofNat schema.screens position]
  simp only [orFault, if_neg inner, through, Screen.parts, ok_bind, decide_eq_false inner]

/-- The forms have the same screens up to a position, and both have a screen after it, with the same
id. -/
structure AgreesThrough (schema schema' : Schema) (position : Nat) : Prop where
  screens : ∀ earlier ≤ position, schema.screens[earlier]? = schema'.screens[earlier]?
  next : ∃ next next', schema.screens[position + 1]? = some next ∧
    schema'.screens[position + 1]? = some next' ∧ next.id = next'.id

theorem AgreesThrough.found (agrees : schema.AgreesThrough schema' position)
    (within : earlier ≤ position) :
    ∃ screen, schema.screens[earlier]? = some screen ∧ schema'.screens[earlier]? = some screen := by
  rcases agrees.next with ⟨next, -, follows, -, -⟩
  have more := (List.getElem?_eq_some_iff.mp follows).1
  have found := List.getElem?_eq_getElem (l := schema.screens) (i := earlier) (by omega)
  exact ⟨_, found, agrees.screens earlier within ▸ found⟩

theorem AgreesThrough.follows (agrees : schema.AgreesThrough schema' position)
    (within : earlier ≤ position) :
    ∃ next next', schema.screens[earlier + 1]? = some next ∧
      schema'.screens[earlier + 1]? = some next' ∧ next.id = next'.id := by
  rcases Nat.lt_or_eq_of_le within with before | rfl
  · rcases agrees.found before with ⟨next, follows, follows'⟩
    exact ⟨next, next, follows, follows', rfl⟩
  · exact agrees.next

theorem AgreesThrough.take (agrees : schema.AgreesThrough schema' position)
    (within : earlier ≤ position) :
    schema.screens.take earlier = schema'.screens.take earlier := by
  apply List.ext_getElem?
  intro place
  rw [List.getElem?_take, List.getElem?_take]
  split
  · next before => exact agrees.screens place (by omega)
  · rfl

theorem AgreesThrough.assemble_eq (agrees : schema.AgreesThrough schema' position)
    (within : earlier ≤ position) : schema.assemble earlier = schema'.assemble earlier := by
  rcases agrees.found within with ⟨screen, found, found'⟩
  rcases agrees.follows within with ⟨next, next', follows, follows', sameId⟩
  rw [assemble_of_next found follows, assemble_of_next found' follows', agrees.take within, sameId]

theorem assembled_of_compile {flow : CompiledFlow} (compiled : schema.compile = .ok flow)
    (found : schema.screens[position]? = some screen)
    (follows : schema.screens[position + 1]? = some next) :
    ∃ assembled, schema.assemble position = .ok assembled ∧
      flow.document.screens[position]? = some assembled.record ∧
        flow.document.routing[position]? = assembled.edge := by
  rcases record_of_compile compiled found with ⟨part, made, record⟩
  have keyed := (compile_eq_ok_iff.mp compiled).2.1
  refine ⟨schema.assembledAt position screen part, ?_, record, ?_⟩
  · rw [assemble_eq keyed found, made]
    rfl
  · rw [routing_of_compile compiled, edge_of_distinct (distinct_of_compile compiled) found follows,
      assembledAt, edge?_eq found, follows, Option.map_some]

/-- In two forms that agree through a position, each screen up to it compiles to the same, and it
does compile if its names, labels and options are texts. So whatever is changed later on, the
documents keep its record and its edge. -/
theorem assemble_of_agreesThrough (agrees : schema.AgreesThrough schema' position)
    (within : earlier ≤ position) :
    schema.assemble earlier = schema'.assemble earlier ∧
      (schema.Spelled → Succeeds (schema.assemble earlier)) ∧
        ∀ flow flow', schema.compile = .ok flow → schema'.compile = .ok flow' →
          ∃ assembled, schema.assemble earlier = .ok assembled ∧
            ∀ document ∈ [flow.document, flow'.document],
              document.screens[earlier]? = some assembled.record ∧
                document.routing[earlier]? = assembled.edge := by
  have same := agrees.assemble_eq within
  rcases agrees.found within with ⟨screen, found, found'⟩
  rcases agrees.follows within with ⟨next, next', follows, follows', -⟩
  refine ⟨same, ?_, ?_⟩
  · intro spelled
    rcases assemble_of_spelled spelled found with ⟨assembled, made, -⟩
    exact ⟨assembled, made⟩
  · intro flow flow' compiled compiled'
    rcases assembled_of_compile compiled found follows with ⟨assembled, made, record, edge⟩
    rcases assembled_of_compile compiled' found' follows' with ⟨assembled', made', record', edge'⟩
    rw [← same, made, Except.ok.injEq] at made'
    rw [← made'] at record' edge'
    exact ⟨assembled, made, by simp [record, edge, record', edge']⟩

def draft : Schema where
  screens := [
    ⟨"who", .text "You", [.input .input (.text "name") (.text "The name on your passport") .null]⟩,
    ⟨"when", .text "", [.static .heading .null (.text "hint"),
      .choice .checkbox (.text "days") .null .null (.list [.text "Monday", .text "Friday"])]⟩,
    ⟨"done", .text "Thanks", []⟩]

def extended : Schema where
  screens := draft.screens.take 2 ++ [
    ⟨"done", .text "Nearly", [.input .textarea (.text "notes") .null .null]⟩,
    ⟨"more", .null, [.input .date (.text "until") .null .null]⟩]

theorem draft_assembled :
    draft.AgreesThrough extended 1 ∧ draft.Spelled ∧
      ∃ assembled, draft.assemble (1 : Nat) = .ok assembled ∧
        extended.assemble (1 : Nat) = .ok assembled := by
  have agrees : draft.AgreesThrough extended 1 := by
    refine ⟨fun earlier within => ?_, _, _, rfl, rfl, rfl⟩
    cases earlier with
    | zero => rfl
    | succ earlier =>
        rcases Nat.le_zero.mp (Nat.le_of_succ_le_succ within) with rfl
        rfl
  have spelled : draft.Spelled := by
    have texts : (Value.list [.text "Monday", .text "Friday"]).AbsentOrTexts :=
      .inr ⟨["Monday", "Friday"], rfl⟩
    simp [Spelled, draft, Component.Spelled, Value.AbsentOrText, texts]
  have result := assemble_of_agreesThrough agrees (Nat.le_refl 1)
  rcases result.2.1 spelled with ⟨assembled, made⟩
  exact ⟨agrees, spelled, assembled, made, result.1 ▸ made⟩

end Schema

end ScreenFlow
