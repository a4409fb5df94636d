import ScreenFlow.Proofs.Reading
import ScreenFlow.Proofs.Writing

namespace ScreenFlow

/-! Which components compile. A field needs a text for a name and a label that can be shown; what
has no length cannot, nor what is too long and cannot be cut or cannot be reported. -/

open Outcome

namespace Value

/-- A label of a document that can be shown: it is absent, a text, a list whose cut can be reported
if it is too long, or a mapping that need not be cut. -/
def Presentable : Value → Prop
  | .null | .text _ => True
  | .list items => items.length ≤ Naming.maxLabelLength ∨ areWritable items = true
  | .map entries => entries.length ≤ Naming.maxLabelLength
  | _ => False

theorem presentable_of_absentOrText {label : Value} (textual : label.AbsentOrText) :
    label.Presentable := by
  rcases textual with rfl | ⟨content, rfl⟩ <;> trivial

theorem isJson_of_absentOrText {label : Value} (textual : label.AbsentOrText) :
    label.isJson = true := by
  rcases textual with rfl | ⟨content, rfl⟩ <;> rfl

end Value

namespace Naming

theorem unrejected_qualifiedName (screen position name : Value) :
    Unrejected (qualifiedName screen position name) := by
  cases name <;> simp [qualifiedName, Unrejected]

theorem unrejected_optionId (position option : Value) : Unrejected (optionId position option) := by
  cases option <;> simp [optionId, Unrejected]

theorem unrejected_truncateLabel (limit : Int) (label : Value) :
    Unrejected (truncateLabel limit label) := by
  have other : ∀ rejection, Fault.wrongKind ≠ .rejected rejection := by simp
  rw [truncateLabel]
  split
  · exact unrejected_ok _
  · split
    · exact unrejected_error other
    · split
      · exact unrejected_orFault other _
      · exact unrejected_ok _

end Naming

theorem Diagnostic.unrejected_ofLabel? (screen : Value) (component : Text)
    (label shown : Value) : Unrejected (ofLabel? screen component label shown) := by
  rw [ofLabel?]
  split
  · exact unrejected_ok none
  · exact unrejected_bind (unrejected_render label) fun _ _ => unrejected_ok _

theorem Diagnostic.ofLabel?_succeeds_iff {screen label shown : Value} {component : Text} :
    Succeeds (ofLabel? screen component label shown) ↔
      label = shown ∨ label.isWritable = true := by
  rw [ofLabel?]
  split
  · next same => exact iff_of_true (.ok none) (.inl same)
  · next cut =>
      rw [← succeeds_render_iff, or_iff_right cut]
      cases label.render <;> simp [Succeeds, bind, Except.bind, pure, Except.pure]

/-! ## Labels that can be shown -/

namespace Naming

theorem truncateLabel_list_of_long {items : List Value} (long : maxLabelLength < items.length) :
    truncateLabel maxLabelLength (.list items) = .ok (.list (items.take maxLabelLength)) := by
  simp [truncateLabel, Value.isNull, Value.length?, Value.upTo?, Value.unroll, orFault, long]

theorem truncateLabel_of_short {label : Value} {length : Nat}
    (measured : label.length? = some length) (short : length ≤ maxLabelLength) :
    truncateLabel maxLabelLength label = .ok label := by
  have given : label.isNull = false := by
    cases label <;> first | rfl | cases measured
  have within : ¬ (maxLabelLength < length) := Nat.not_lt.mpr short
  simp [truncateLabel, given, measured, within]

theorem not_succeeds_truncateLabel_map {entries : List (Value × Value)}
    (long : maxLabelLength < entries.length) :
    ¬ Succeeds (truncateLabel maxLabelLength (.map entries)) := by
  simp [truncateLabel, Value.isNull, Value.length?, Value.upTo?, Value.unroll, orFault, long,
    Succeeds]

end Naming

/-- The steps that show a label succeed: it can be cut, and it has a text if it was. -/
def Value.Showable (label : Value) : Prop :=
  ∃ shown, Naming.truncateLabel Naming.maxLabelLength label = .ok shown ∧
    (label = shown ∨ label.isWritable = true)

theorem Value.showable_iff {label : Value} (json : label.isJson = true) :
    label.Showable ↔ label.Presentable := by
  rw [Showable]
  cases label with
  | null => exact iff_of_true ⟨.null, rfl, .inl rfl⟩ trivial
  | text content =>
      exact iff_of_true ⟨_, Naming.truncateLabel_of_textual (.inr ⟨content, rfl⟩), .inr rfl⟩ trivial
  | list items =>
      rw [Value.Presentable]
      by_cases long : Naming.maxLabelLength < items.length
      · have cut : Value.list items ≠ .list (items.take Naming.maxLabelLength) := by
          intro same
          have lengths := congrArg List.length (Value.list.inj same)
          rw [List.length_take] at lengths
          omega
        rw [Naming.truncateLabel_list_of_long long, or_iff_right (Nat.not_le.mpr long)]
        simp [cut, Value.isWritable]
      · have short := Nat.not_lt.mp long
        exact iff_of_true ⟨_, Naming.truncateLabel_of_short rfl short, .inl rfl⟩ (.inl short)
  | map entries =>
      by_cases long : Naming.maxLabelLength < entries.length
      · refine iff_of_false ?_ (Nat.not_le.mpr long)
        intro given
        rcases given with ⟨shown, cut, -⟩
        exact Naming.not_succeeds_truncateLabel_map long ⟨shown, cut⟩
      · have short := Nat.not_lt.mp long
        exact iff_of_true ⟨_, Naming.truncateLabel_of_short rfl short, .inl rfl⟩ short
  | bool | int | float =>
      exact iff_of_false (by simp [Naming.truncateLabel, Value.isNull, Value.length?]) id
  | _ => simp [Value.isJson] at json

namespace Choice

theorem unrejected_ofOptions (position : Nat) (options : List Value) :
    Unrejected (ofOptions position options) := by
  induction options generalizing position with
  | nil => exact unrejected_ok []
  | cons option options induction =>
      apply unrejected_bind (Naming.unrejected_optionId _ option)
      intro id _
      exact unrejected_bind (induction (position + 1)) fun _ _ => unrejected_ok _

theorem unrejected_offered (options : Value) : Unrejected (offered options) := by
  have other : ∀ rejection, Fault.wrongKind ≠ .rejected rejection := by simp
  rw [offered]
  split
  · exact unrejected_ok none
  · exact unrejected_map (unrejected_bind (unrejected_orFault other _) fun parts _ =>
      unrejected_ofOptions 0 parts)

end Choice

namespace Component

theorem unrejected_compile (screen position : Value) (component : Component) :
    Unrejected (component.compile screen position) := by
  cases component with
  | static type text name => exact unrejected_ok _
  | input type name label required =>
      apply unrejected_bind (Naming.unrejected_qualifiedName screen position name)
      intro key _
      apply unrejected_bind (Naming.unrejected_truncateLabel _ label)
      intro shown _
      exact unrejected_bind (Diagnostic.unrejected_ofLabel? screen key label shown) fun _ _ =>
        unrejected_ok _
  | choice type name label required options =>
      rw [compile_choice]
      apply unrejected_bind (Naming.unrejected_qualifiedName screen position name)
      intro key _
      apply unrejected_bind (Naming.unrejected_truncateLabel _ label)
      intro shown _
      apply unrejected_bind (Diagnostic.unrejected_ofLabel? screen key label shown)
      intro _ _
      exact unrejected_bind (Choice.unrejected_offered options) fun _ _ => unrejected_ok _
  | foreign => exact unrejected_error (by simp)

theorem compile_input_succeeds_iff {screen position : Value} {type : InputType}
    {content : Text} {label required : Value} :
    Succeeds ((Component.input type (.text content) label required).compile screen position) ↔
      label.Showable := by
  rw [compile, Naming.qualifiedName]
  simp only [succeeds_bind_iff, Except.ok.injEq, exists_eq_left', Succeeds.pure, and_true]
  exact exists_congr fun _ => and_congr_right fun _ => Diagnostic.ofLabel?_succeeds_iff

theorem compile_choice_succeeds_iff {screen position : Value} {type : ChoiceType}
    {content : Text} {label required options : Value} (texts : options.AbsentOrTexts) :
    Succeeds ((Component.choice type (.text content) label required options).compile screen
      position) ↔ label.Showable := by
  rcases Choice.offered_of_texts texts with ⟨source, offered⟩
  rw [compile_choice, Naming.qualifiedName, offered]
  simp only [succeeds_bind_iff, Except.ok.injEq, exists_eq_left', exists_eq', Succeeds.pure,
    and_true]
  exact exists_congr fun _ => and_congr_right fun _ => Diagnostic.ofLabel?_succeeds_iff

theorem compile_succeeds_iff_showable {component : Component} (wellFormed : component.WellFormed)
    (nameable : component.Nameable) (screen position : Value) :
    Succeeds (component.compile screen position) ↔ component.label.Showable := by
  rcases nameable with ⟨name, named, texts⟩
  cases component with
  | static type text name => exact iff_of_true (.ok _) ⟨.null, rfl, .inl rfl⟩
  | input type name label required =>
      rcases Option.some.inj named with rfl
      rcases texts wellFormed with ⟨content, rfl⟩
      exact compile_input_succeeds_iff
  | choice type name label required options =>
      rcases Option.some.inj named with rfl
      rcases texts wellFormed.1 with ⟨content, rfl⟩
      exact compile_choice_succeeds_iff wellFormed.2
  | foreign => exact wellFormed.elim

theorem compile_succeeds_iff {component : Component} (wellFormed : component.WellFormed)
    (nameable : component.Nameable) (json : component.label.isJson = true)
    (screen position : Value) :
    Succeeds (component.compile screen position) ↔ component.label.Presentable := by
  rw [compile_succeeds_iff_showable wellFormed nameable, Value.showable_iff json]

end Component

end ScreenFlow
