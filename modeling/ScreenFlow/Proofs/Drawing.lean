import ScreenFlow.Diagram
import ScreenFlow.Proofs.Assembly

namespace ScreenFlow

/-! Which forms have a diagram. A form is not refused for its diagram; titles and names of another
kind than a text are all that can keep it from being drawn. -/

open Outcome

/-- A screen can be drawn: its title is a text if it is given, and its components can have keys if
these are shown. -/
structure Screen.Drawable (mode : DiagramMode) (screen : Screen) : Prop where
  titled : screen.title.isGiven = true → ∃ content, screen.title = .text content
  keyed : mode = .detailed → ∀ placed ∈ screen.placed, placed.component.Nameable

theorem Screen.unrejected_collect (placeds : List Placed) : Unrejected (bound.collect placeds) := by
  induction placeds with
  | nil => exact unrejected_ok []
  | cons placed placeds induction =>
      rw [bound.collect]
      refine unrejected_bind placed.unrejected_boundKey? fun key? _ => ?_
      cases key? with
      | none => exact induction
      | some key => exact unrejected_map induction

namespace Diagram

variable {mode : DiagramMode} {last : Bool} {screen : Screen} {screens : List Screen}

theorem quoteValue_succeeds_iff {value : Value} :
    Succeeds (quoteValue value) ↔ (value.isGiven = true → ∃ content, value = .text content) := by
  cases given : value.isGiven with
  | false => simp [quoteValue, given, Succeeds]
  | true => cases value <;> simp [quoteValue, given, Succeeds]

theorem unrejected_quoteValue (value : Value) : Unrejected (quoteValue value) := by
  cases given : value.isGiven with
  | false => simp [quoteValue, given, Unrejected]
  | true => cases value <;> simp [quoteValue, given, Unrejected]

theorem fields_eq_ok_iff {keys : List Text} :
    fields screen = .ok keys ↔
      (∀ placed ∈ screen.placed, placed.component.Nameable) ∧
        Ordered.keys (Screen.keyed [screen]) = keys := by
  rw [fields, bind_eq_ok]
  simp only [Screen.bound_eq_ok_iff, List.flatMap_singleton, pure_eq_ok, and_assoc, exists_and_left,
    exists_eq_left']
  rfl

theorem unrejected_fields (screen : Screen) : Unrejected (fields screen) :=
  unrejected_bind (Screen.unrejected_collect _) fun _ _ => unrejected_ok _

def heading (screen : Screen) : Value :=
  if screen.title.isGiven then screen.title else .text screen.id

theorem heading_isText_iff :
    (∃ content, heading screen = .text content) ↔
      (screen.title.isGiven = true → ∃ content, screen.title = .text content) := by
  rw [heading]
  cases given : screen.title.isGiven <;> simp

theorem quoteValue_heading_succeeds_iff :
    Succeeds (quoteValue (heading screen)) ↔ ∃ content, heading screen = .text content := by
  rw [quoteValue_succeeds_iff, heading]
  cases given : screen.title.isGiven <;> simp [given]

theorem label_simple : label .simple screen = .ok (heading screen) := rfl

def listing (screen : Screen) (keys : List Text) : Except Fault Value :=
  if keys.isEmpty then .ok (heading screen)
  else (orFault .wrongKind (heading screen).text?).map fun title =>
    .text (title ++ "\n" ++ Text.intercalate "\n" keys)

theorem label_detailed : label .detailed screen = fields screen >>= listing screen := rfl

theorem listing_succeeds_iff {keys : List Text} :
    Succeeds (listing screen keys >>= quoteValue) ↔ ∃ content, heading screen = .text content := by
  rw [listing]
  split
  · exact quoteValue_heading_succeeds_iff
  · cases heading screen with
    | text content =>
        refine iff_of_true (quoteValue_succeeds_iff.mpr fun _ => ⟨_, rfl⟩) ⟨content, rfl⟩
    | _ => simp [Value.text?, orFault, Except.map, error_bind, Succeeds]

theorem unrejected_label : Unrejected (label mode screen) := by
  cases mode with
  | simple => exact unrejected_ok _
  | detailed =>
      refine unrejected_bind (unrejected_fields screen) fun keys _ => ?_
      change Unrejected (listing screen keys)
      rw [listing]
      split
      · exact unrejected_ok _
      · exact unrejected_map (unrejected_orFault (by simp) _)

theorem node_eq : node mode last screen =
    ((label mode screen >>= quoteValue).map fun shown => "  " ++ idToken screen.id ++ " [" ++
      ("label=" ++ shown ++ if last then ", shape=doubleoctagon, fillcolor=lightgreen" else "") ++
        "];") := by
  rw [node]
  cases label mode screen with
  | error fault => rfl
  | ok value => cases quoteValue value <;> rfl

theorem unrejected_node : Unrejected (node mode last screen) := by
  rw [node_eq]
  exact unrejected_map (unrejected_bind unrejected_label fun _ _ => unrejected_quoteValue _)

theorem node_succeeds_iff (last : Bool) :
    Succeeds (node mode last screen) ↔ screen.Drawable mode := by
  rw [node_eq, succeeds_map_iff]
  cases mode with
  | simple =>
      rw [label_simple, ok_bind, quoteValue_heading_succeeds_iff, heading_isText_iff]
      exact ⟨fun titled => ⟨titled, nofun⟩, Screen.Drawable.titled⟩
  | detailed =>
      rw [label_detailed, bind_assoc, succeeds_bind_iff]
      simp only [fields_eq_ok_iff, listing_succeeds_iff, and_assoc, exists_and_left,
        exists_eq_left', heading_isText_iff]
      exact ⟨fun given => ⟨given.2, fun _ => given.1⟩,
        fun drawable => ⟨drawable.keyed rfl, drawable.titled⟩⟩

theorem nodes_succeed_iff :
    Succeeds (nodes mode screens) ↔ ∀ screen ∈ screens, screen.Drawable mode := by
  induction screens with
  | nil => simp [nodes, Succeeds, pure, Except.pure]
  | cons screen screens induction =>
      rw [nodes, List.forall_mem_cons, ← induction, ← node_succeeds_iff screens.isEmpty,
        succeeds_bind_iff]
      simp only [bind_pure_comp, functor_map_eq, succeeds_map_iff, exists_and_right]
      rfl

theorem unrejected_nodes : Unrejected (nodes mode screens) := by
  induction screens with
  | nil => exact unrejected_ok []
  | cons screen screens induction =>
      rw [nodes]
      exact unrejected_bind unrejected_node fun _ _ =>
        unrejected_bind induction fun _ _ => unrejected_ok _

end Diagram

namespace Schema

variable {schema : Schema} {mode : DiagramMode}

theorem diagram_succeeds_iff :
    Succeeds (schema.diagram mode) ↔ ∀ screen ∈ schema.screens, screen.Drawable mode := by
  rw [diagram, diagramLines, ← Diagram.nodes_succeed_iff]
  cases Diagram.nodes mode schema.screens <;> simp [Succeeds, bind, Except.bind, pure, Except.pure]

theorem unrejected_diagram : Unrejected (schema.diagram mode) :=
  unrejected_bind (unrejected_bind Diagram.unrejected_nodes fun _ _ => unrejected_ok _)
    fun _ _ => unrejected_ok _

end Schema

end ScreenFlow
