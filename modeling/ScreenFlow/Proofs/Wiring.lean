import ScreenFlow.Proofs.Widgets

namespace ScreenFlow

/-! What the wiring of a form depends on. Of a component it is the key, and whether it holds one
text or many; of a screen it is the id besides. Forms that agree in this are valid together, declare
and hand on the same data, and lead the same way. -/

open Outcome

namespace Sequence

theorem forall₂_indexed {relates : α → β → Prop} {elements : List α} {others : List β}
    (each : List.Forall₂ relates elements others) :
    List.Forall₂ (fun entry other => entry.1 = other.1 ∧ relates entry.2 other.2)
      (indexed elements) (indexed others) := by
  -- Positions count on from the start, so the induction is for any start.
  suffices all : ∀ start, List.Forall₂
      (fun entry other => entry.1 = other.1 ∧ relates entry.2 other.2)
      (indexed.indexedFrom start elements) (indexed.indexedFrom start others) from all 0
  induction each with
  | nil => exact fun _ => .nil
  | cons first _ induction => exact fun start => .cons ⟨rfl, first⟩ (induction (start + 1))

end Sequence

/-! ## Components -/

/-- The components have the same key at every place, and hold the same kind of data. -/
structure Component.WiredAs (component component' : Component) : Prop where
  keys : ∀ screen position, Placed.boundKey? ⟨screen, position, component⟩ =
    Placed.boundKey? ⟨screen, position, component'⟩
  kind : Placeholder.ofComponent component = .ofComponent component'

/-- The components have the same key where they are, on screens with the same id, and hold the same
kind of data. -/
structure Placed.WiredAs (placed placed' : Placed) : Prop where
  screen : placed.screen = placed'.screen
  boundKey : placed.boundKey? = placed'.boundKey?
  kind : Placeholder.ofComponent placed.component = .ofComponent placed'.component

namespace Placed

variable {placed placed' : Placed}

theorem key?_of_not_nameable (unnameable : ¬ placed.component.Nameable) : placed.key? = none := by
  cases keyed : placed.key? with
  | none => rfl
  | some key =>
      rcases key?_eq_some keyed with ⟨name, named, -⟩
      exact absurd ⟨.text name, named, fun _ => ⟨name, rfl⟩⟩ unnameable

theorem WiredAs.nameable (wired : placed.WiredAs placed') (nameable : placed.component.Nameable) :
    placed'.component.Nameable := by
  have bound := boundKey?_of_nameable nameable
  rw [wired.boundKey] at bound
  exact (boundKey?_eq_ok_iff.mp bound).1

theorem WiredAs.symm (wired : placed.WiredAs placed') : placed'.WiredAs placed :=
  ⟨wired.screen.symm, wired.boundKey.symm, wired.kind.symm⟩

theorem WiredAs.key (wired : placed.WiredAs placed') : placed.key? = placed'.key? := by
  by_cases nameable : placed.component.Nameable
  · have bound := boundKey?_of_nameable nameable
    rw [wired.boundKey] at bound
    exact (boundKey?_eq_ok_iff.mp bound).2.symm
  · rw [key?_of_not_nameable nameable,
      key?_of_not_nameable fun nameable' => nameable (wired.symm.nameable nameable')]

end Placed

theorem Schema.checkKeys_of_wired {placeds placeds' : List Placed}
    (wired : List.Forall₂ Placed.WiredAs placeds placeds') (seen : List Text) :
    checkKeys seen placeds = checkKeys seen placeds' := by
  induction wired generalizing seen with
  | nil => rfl
  | cons first _ induction =>
      rw [checkKeys, checkKeys, first.boundKey, first.screen]
      simp only [induction]

/-! ## Screens -/

/-- The screens have the same id, and their components are wired in the same way. -/
structure Screen.WiredAs (screen screen' : Screen) : Prop where
  id : screen.id = screen'.id
  components : List.Forall₂ Component.WiredAs screen.components screen'.components

namespace Screen

variable {screen screen' : Screen} {screens screens' : List Screen}

theorem forall₂_placed {relates : Component → Component → Prop} {holds : Placed → Placed → Prop}
    (id : screen.id = screen'.id)
    (each : List.Forall₂ relates screen.components screen'.components)
    (lifts : ∀ position component component', relates component component' →
      holds ⟨screen.id, position, component⟩ ⟨screen.id, position, component'⟩) :
    List.Forall₂ holds screen.placed screen'.placed := by
  rw [placed, placed, List.forall₂_map_left_iff, List.forall₂_map_right_iff, ← id]
  refine (Sequence.forall₂_indexed each).imp fun entry entry' both => ?_
  rcases entry with ⟨position, component⟩
  rcases entry' with ⟨_, component'⟩
  rcases both with ⟨rfl, both⟩
  exact lifts position component component' both

theorem WiredAs.placed (wired : screen.WiredAs screen') :
    List.Forall₂ Placed.WiredAs screen.placed screen'.placed :=
  forall₂_placed wired.id wired.components fun _ _ _ both => ⟨rfl, both.keys _ _, both.kind⟩

theorem placed_of_wired (wired : List.Forall₂ WiredAs screens screens') :
    List.Forall₂ Placed.WiredAs (screens.flatMap Screen.placed) (screens'.flatMap Screen.placed) :=
  List.rel_flatMap wired fun _ _ both => both.placed

def ties (screens : List Screen) : List (Text × Placeholder) :=
  (keyed screens).map fun entry => (entry.1, .ofComponent entry.2)

theorem ties_of_wired (wired : List.Forall₂ WiredAs screens screens') :
    ties screens = ties screens' := by
  have tied (screens : List Screen) : ties screens =
      (screens.flatMap Screen.placed).filterMap fun placed =>
        placed.key?.map fun key => (key, Placeholder.ofComponent placed.component) := by
    rw [ties, keyed, List.map_filterMap]
    congr 1
    funext placed
    rw [Placed.entry?, Option.map_map]
    rfl
  rw [tied, tied]
  apply filterMap_eq_of_forall₂
  exact (placed_of_wired wired).imp fun _ _ both => by rw [both.key, both.kind]

end Screen

/-! ## Forms -/

def Schema.WiredAs (schema schema' : Schema) : Prop :=
  List.Forall₂ Screen.WiredAs schema.screens schema'.screens

namespace Schema.WiredAs

variable {schema schema' : Schema} {position : Nat} {screen screen' : Screen}

theorem id_at (wired : schema.WiredAs schema') (position : Nat) :
    schema.screens[position]?.map Screen.id = schema'.screens[position]?.map Screen.id := by
  have ids : schema.screens.map Screen.id = schema'.screens.map Screen.id :=
    map_eq_of_forall₂ (wired.imp fun _ _ both => both.id)
  rw [← List.getElem?_map, ids, List.getElem?_map]

theorem validate (wired : schema.WiredAs schema') : schema.validate = schema'.validate := by
  have sizes : schema.sizes = schema'.sizes :=
    map_eq_of_forall₂ (wired.imp fun _ _ both => by rw [both.id, both.components.length_eq])
  rw [Schema.validate, Schema.validate, sizes, checkNames, checkNames,
    checkKeys_of_wired (Screen.placed_of_wired wired)]

theorem declared (wired : schema.WiredAs schema') (position : Nat) :
    schema.declared position = schema'.declared position :=
  Screen.ties_of_wired (List.forall₂_take position wired)

theorem handedOn (wired : schema.WiredAs schema') (position : Nat)
    (both : screen.WiredAs screen') :
    schema.handedOn position screen = schema'.handedOn position screen' := by
  have tied (schema : Schema) (screen : Screen) : schema.handedOn position screen =
      (Screen.ties (schema.screens.take position)).map (fun tie => (tie.1, .data tie.1)) ++
        (Screen.ties [screen]).map fun tie => (tie.1, .form tie.1) := by
    rw [Screen.ties, Screen.ties, List.map_map, List.map_map]
    rfl
  rw [tied, tied, Screen.ties_of_wired (List.forall₂_take position wired),
    Screen.ties_of_wired (.cons both .nil)]

theorem leaving (wired : schema.WiredAs schema') (position : Nat)
    (both : screen.WiredAs screen') :
    schema.leaving position screen = schema'.leaving position screen' := by
  have next := wired.id_at (position + 1)
  rw [Schema.leaving, Schema.leaving, wired.handedOn position both]
  cases found : schema.screens[position + 1]? <;>
    cases found' : schema'.screens[position + 1]? <;> simp_all

theorem recordAt (wired : schema.WiredAs schema') (position : Nat)
    (both : screen.WiredAs screen') (title : screen.title = screen'.title)
    (widgets : List Widget) :
    schema.recordAt position screen widgets = schema'.recordAt position screen' widgets := by
  rw [Schema.recordAt, Schema.recordAt, both.id, title, wired.declared, wired.leaving position both,
    wired.length_eq]

theorem routing (wired : schema.WiredAs schema') : schema.routing = schema'.routing := by
  rw [Schema.routing, Schema.routing, ← wired.length_eq]
  refine congrArg Ordered.ofEntries (List.filterMap_congr fun position member => ?_)
  have inside := List.mem_range.mp member
  have inside' := inside
  rw [wired.length_eq] at inside'
  have both := wired.get inside inside'
  rw [edge?_eq (List.getElem?_eq_getElem inside), edge?_eq (List.getElem?_eq_getElem inside')]
  have next := congrArg (Option.map (schema.screens[position].id, ·)) (wired.id_at (position + 1))
  rw [Option.map_map, Option.map_map] at next
  have id : schema.screens[position].id = schema'.screens[position].id := both.id
  rw [← id]
  exact next

theorem document_eq {flow flow' : CompiledFlow} (wired : schema.WiredAs schema')
    (shown : List.Forall₂ (fun screen screen' =>
      screen.title = screen'.title ∧ screen.widgets? = screen'.widgets?)
      schema.screens schema'.screens)
    (compiled : schema.compile = .ok flow) (compiled' : schema'.compile = .ok flow') :
    flow.document = flow'.document := by
  have routing : flow.document.routing = flow'.document.routing := by
    rw [routing_of_compile compiled, routing_of_compile compiled', wired.routing]
  have screens : flow.document.screens = flow'.document.screens := by
    refine List.ext_getElem ?_ fun position inside inside' => ?_
    · rw [length_of_compile compiled, length_of_compile compiled', wired.length_eq]
    · rw [length_of_compile compiled] at inside
      rw [length_of_compile compiled'] at inside'
      rcases record_of_compile compiled (List.getElem?_eq_getElem inside) with ⟨part, made, record⟩
      rcases record_of_compile compiled' (List.getElem?_eq_getElem inside') with
        ⟨part', made', record'⟩
      have both : schema.screens[position].WiredAs schema'.screens[position] :=
        wired.get inside inside'
      have same := shown.get inside inside'
      have widgets : part.1 = part'.1 := by
        have listed := same.2
        rw [List.get_eq_getElem, List.get_eq_getElem, Screen.widgets?_of_parts made,
          Screen.widgets?_of_parts made'] at listed
        exact Except.ok.inj listed
      rw [(List.getElem?_eq_some_iff.mp record).2, (List.getElem?_eq_some_iff.mp record').2, widgets,
        wired.recordAt position both same.1]
  exact congrArg₂ FlowDocument.mk routing screens

end Schema.WiredAs

end ScreenFlow
