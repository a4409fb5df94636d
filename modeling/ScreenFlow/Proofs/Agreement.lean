import ScreenFlow.Proofs.Findings
import ScreenFlow.Proofs.Reading

namespace ScreenFlow

/-! Findings about components and what the components compile to. A label is found to be long
exactly if a note says that it was cut, and a choice is found to have no options exactly if its
widget has nothing to choose from. -/

open Outcome

/-! ## Labels and options -/

namespace Value

theorem length?_of_upTo? {value front : Value} {limit : Nat}
    (cut : value.upTo? limit = some front) : ∃ length ≤ limit, front.length? = some length := by
  have short {α : Type} (elements : List α) : (Sequence.upTo elements limit).length ≤ limit := by
    rw [Sequence.upTo_ofNat]
    exact List.length_take_le limit elements
  rw [upTo?] at cut
  split at cut
  · rcases Option.some.inj cut with rfl
    exact ⟨_, short _, rfl⟩
  · rcases Option.some.inj cut with rfl
    exact ⟨_, short _, rfl⟩
  · rcases Option.some.inj cut with rfl
    exact ⟨_, short _, rfl⟩
  · rcases Option.some.inj cut with rfl
    exact ⟨_, short _, rfl⟩
  · cases cut

theorem isGiven_of_parts? {value : Value} {parts : List Value}
    (divided : value.parts? = some parts) : value.isGiven = !parts.isEmpty := by
  have text (content : Text) : content.toList.isEmpty = content.isEmpty := by
    rw [Bool.eq_iff_iff, List.isEmpty_iff, Text.isEmpty_iff, Text.toList_eq_nil_iff]
  have all (label : Nat) (whole : Value) (values : List Value) :
      (substituteAll label whole values).isEmpty = values.isEmpty := by
    cases values <;> rfl
  have entries (label : Nat) (whole : Value) (entries : List (Value × Value)) :
      (substituteEntries label whole entries).isEmpty = entries.isEmpty := by
    cases entries <;> rfl
  cases value with
  | cyclic label content =>
      -- The whole takes the place of a part, so that there are as many parts as before.
      cases content with
      | again other =>
          by_cases same : other = label <;> simp [parts?, unroll, substitute, same] at divided
      | _ => simp [parts?, unroll, substitute] at divided <;>
          simp [isGiven, ← divided, text, all, entries]
  | _ => simp [parts?, unroll] at divided <;> simp [isGiven, ← divided, text]

end Value

namespace Naming

theorem truncateLabel_eq_ok {label shown : Value}
    (cut : truncateLabel maxLabelLength label = .ok shown) :
    (label = .null ∨ label.length?.isSome = true) ∧
      (label = shown ↔
        label.length?.any (fun length => decide (maxLabelLength < length)) = false) := by
  rw [truncateLabel] at cut
  split at cut
  · next absent =>
      rcases Except.ok.inj cut with rfl
      rcases Value.isNull_iff.mp absent with rfl
      exact ⟨.inl rfl, iff_of_true rfl rfl⟩
  · split at cut
    · cases cut
    · next length measured =>
        refine ⟨.inr (by rw [measured]; rfl), ?_⟩
        rw [measured, Option.any_some]
        split at cut
        · next long =>
            rcases Value.length?_of_upTo? (orFault_eq_ok.mp cut) with ⟨kept, within, shorter⟩
            have differs : label ≠ shown := by
              intro same
              rw [same, shorter] at measured
              rcases Option.some.inj measured with rfl
              omega
            exact iff_of_false differs (by simpa using long)
        · next short =>
            rcases Except.ok.inj cut with rfl
            exact iff_of_true rfl (by simpa using short)

end Naming

theorem Choice.isEmpty_of_ofOptions {position : Nat} {options : List Value} {choices : List Choice}
    (listed : ofOptions position options = .ok choices) : choices.isEmpty = options.isEmpty := by
  rw [← title_of_ofOptions listed, List.isEmpty_map]

theorem Choice.isEmpty_of_offered {options : Value} {source : Option (List Choice)}
    (listed : offered options = .ok source) :
    source.elim true List.isEmpty = !options.isGiven := by
  rw [offered] at listed
  split at listed
  · next absent =>
      rcases pure_eq_ok.mp listed with rfl
      rcases Value.isNull_iff.mp absent with rfl
      rfl
  · rcases map_eq_ok.mp listed with ⟨choices, made, rfl⟩
    rcases bind_eq_ok.mp made with ⟨parts, divided, numbered⟩
    rw [Option.elim_some, isEmpty_of_ofOptions numbered,
      Value.isGiven_of_parts? (orFault_eq_ok.mp divided), Bool.not_not]

theorem Diagnostic.component_of_ofLabel? {screen label shown : Value} {component : Text}
    {note : Option Diagnostic} (noted : ofLabel? screen component label shown = .ok note) :
    note.map Diagnostic.component = if label = shown then none else some component := by
  rw [ofLabel?] at noted
  split at noted
  · next same =>
      rcases pure_eq_ok.mp noted with rfl
      rw [if_pos same]
      rfl
  · next differs =>
      rcases bind_eq_ok.mp noted with ⟨text, -, noted⟩
      rcases pure_eq_ok.mp noted with rfl
      rw [if_neg differs]
      rfl

/-! ## Components -/

namespace Component

/-- The component was built in one of the families. -/
def Built (component : Component) : Prop :=
  ∃ family type parts, build family type parts = .ok component

def Named : Component → Prop
  | .static _ _ _ => True
  | .input _ name _ _ => name.isGiven = true
  | .choice _ name _ _ _ => name.isGiven = true
  | .foreign => False

theorem of_checked {given : Bool} {component built : Component} {rejection : Rejection}
    (checked : (if given then .ok component else reject rejection) = .ok built) :
    component = built ∧ given = true := by
  cases given with
  | false => cases checked
  | true => exact ⟨Except.ok.inj checked, rfl⟩

theorem named_of_built {component : Component} (built : component.Built) : component.Named := by
  rcases built with ⟨family, type, parts, built⟩
  cases family with
  | static =>
      cases type with
      | static type =>
          rcases Except.ok.inj built with rfl
          trivial
      | _ => cases built
  | field => cases built
  | input =>
      cases type with
      | input type =>
          rcases of_checked built with ⟨rfl, given⟩
          exact given
      | _ => cases built
  | choice =>
      cases type with
      | choice type =>
          rcases of_checked built with ⟨rfl, given⟩
          exact given
      | _ => cases built

theorem named_of_wellFormed {component : Component} (wellFormed : component.WellFormed) :
    component.Named := by
  cases component with
  | choice type name label required options => exact wellFormed.1
  | _ => exact wellFormed

end Component

namespace Widget

def bareName? : Widget → Option Text
  | .choice _ _ name _ source => if source.elim true List.isEmpty then some name else none
  | _ => none

end Widget

namespace Placed

/-- What the analysis finds about a component is what its widget and its note show. -/
structure Shows (placed : Placed) (part : Widget × Option Diagnostic) : Prop where
  measurable : placed.component.Measurable
  note : part.2.map Diagnostic.component = placed.longKey?
  bare : part.1.bareName? = placed.bareKey?

theorem key?_of_qualifiedName {placed : Placed} {name : Value} {key : Text}
    (named : placed.component.name? = some name) (given : name.isGiven = true)
    (qualified : Naming.qualifiedName (.text placed.screen) (.int placed.position) name = .ok key) :
    placed.key? = some key := by
  apply (boundKey?_eq_ok_iff.mp _).2
  rw [boundKey?_of_given named given, qualified]
  rfl

theorem note_eq_longKey? {placed : Placed} {shown : Value} {key : Text}
    {note : Option Diagnostic} (keyed : placed.key? = some key)
    (cut : Naming.truncateLabel Naming.maxLabelLength placed.component.label = .ok shown)
    (noted : Diagnostic.ofLabel? (.text placed.screen) key placed.component.label shown =
      .ok note) : note.map Diagnostic.component = placed.longKey? := by
  have whole := (Naming.truncateLabel_eq_ok cut).2
  rw [Diagnostic.component_of_ofLabel? noted, longKey?, Component.isLong, keyed]
  by_cases same : placed.component.label = shown
  · rw [if_pos same, whole.mp same]
    rfl
  · rw [if_neg same, if_pos (by simpa using mt whole.mpr same)]

theorem shows_of_compiled {placed : Placed} {part : Widget × Option Diagnostic}
    (named : placed.component.Named) (made : placed.compiled = .ok part) : placed.Shows part := by
  rcases placed with ⟨screen, position, component⟩
  cases Component.compile_eq_ok_iff.mp made with
  | static => exact ⟨.inl rfl, rfl, rfl⟩
  | @input type name label required shown key note qualified cut noted =>
      have keyed : key? ⟨screen, position, .input type name label required⟩ = some key :=
        key?_of_qualifiedName rfl named qualified
      exact ⟨(Naming.truncateLabel_eq_ok cut).1, note_eq_longKey? keyed cut noted, rfl⟩
  | @choice type name label required options shown key note source qualified cut noted listed =>
      have keyed : key? ⟨screen, position, .choice type name label required options⟩ = some key :=
        key?_of_qualifiedName rfl named qualified
      refine ⟨(Naming.truncateLabel_eq_ok cut).1, note_eq_longKey? keyed cut noted, ?_⟩
      rw [Widget.bareName?, Choice.isEmpty_of_offered listed, bareKey?, keyed]
      rfl

end Placed

/-! ## Screens -/

namespace Screen

/-- What the analysis finds about the components of a screen is what their widgets and the notes
show. -/
structure Shows (screen : Screen) (part : List Widget × List Diagnostic) : Prop where
  size : screen.placed.length = part.1.length
  notes : screen.placed.filterMap Placed.longKey? = part.2.map Diagnostic.component
  bare : screen.placed.filterMap Placed.bareKey? = part.1.filterMap Widget.bareName?

theorem shows_of_parts {screen : Screen} {part : List Widget × List Diagnostic}
    (named : ∀ placed ∈ screen.placed, placed.component.Named) (made : screen.parts = .ok part) :
    screen.Shows part := by
  rcases parts_eq_ok_iff.mp made with ⟨parts, compiled, rfl⟩
  have each : List.Forall₂ Placed.Shows screen.placed parts :=
    ((List.forall₂_and_left screen.placed parts).mpr ⟨named, compiled⟩).imp fun _ _ both =>
      Placed.shows_of_compiled both.1 both.2
  constructor
  · rw [List.length_map]
    exact each.length_eq
  · rw [List.map_filterMap]
    exact filterMap_eq_of_forall₂ (each.imp fun _ _ shows => shows.note.symm)
  · rw [List.filterMap_map]
    exact filterMap_eq_of_forall₂ (each.imp fun _ _ shows => shows.bare.symm)

end Screen

end ScreenFlow
