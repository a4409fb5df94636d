import ScreenFlow.Proofs.Assembly

namespace ScreenFlow

/-! What a component compiles to. A label that is absent or a text can always be shown, so what is
left of a component is its widget, which depends on the label only as far as it is shown. -/

/-! ## Labels -/

namespace Value

def AbsentOrText (value : Value) : Prop := value = .null ∨ ∃ content, value = .text content

def AbsentOrTexts (value : Value) : Prop :=
  value = .null ∨ ∃ contents : List Text, value = .list (contents.map .text)

end Value

namespace Naming

def cut : Value → Value
  | .text content => .text (Text.ofList (content.toList.take maxLabelLength))
  | label => label

theorem cut_cut (label : Value) : cut (cut label) = cut label := by
  cases label with
  | text content => rw [cut, cut, Text.toList_ofList, List.take_take, Nat.min_self]
  | _ => rfl

theorem absentOrText_cut {label : Value} (textual : label.AbsentOrText) :
    (cut label).AbsentOrText := by
  rcases textual with rfl | ⟨content, rfl⟩
  · exact .inl rfl
  · exact .inr ⟨_, rfl⟩

theorem cut_of_short {content : Text} (short : content.length ≤ maxLabelLength) :
    cut (.text content) = .text content := by
  rw [cut, List.take_of_length_le (by rwa [Text.length_toList]), Text.ofList_toList]

theorem truncateLabel_of_textual {label : Value} (textual : label.AbsentOrText) :
    truncateLabel maxLabelLength label = .ok (cut label) := by
  rcases textual with rfl | ⟨content, rfl⟩
  · rfl
  · by_cases long : content.length > maxLabelLength
    · simp [truncateLabel, Value.isNull, Value.length?, Value.upTo?, Value.unroll, orFault, cut,
        long]
    · rw [cut_of_short (Nat.le_of_not_lt long)]
      simp [truncateLabel, Value.isNull, Value.length?, long]

end Naming

theorem Diagnostic.ofLabel?_of_textual {label : Value} (textual : label.AbsentOrText)
    (screen shown : Value) (component : Text) :
    Outcome.Succeeds (ofLabel? screen component label shown) := by
  by_cases same : label = shown
  · exact ⟨none, by simp [ofLabel?, same, pure, Except.pure]⟩
  · rcases textual with rfl | ⟨content, rfl⟩ <;>
      exact ⟨_, by simp [ofLabel?, same, Value.render, Value.isWritable, bind, Except.bind, pure,
        Except.pure]; rfl⟩

/-! ## Options -/

namespace Choice

theorem title_of_ofOptions {position : Nat} {options : List Value} {choices : List Choice}
    (listed : ofOptions position options = .ok choices) : choices.map Choice.title = options := by
  induction options generalizing position choices with
  | nil =>
      rw [ofOptions, Outcome.pure_eq_ok] at listed
      rw [← listed]
      rfl
  | cons option options induction =>
      rw [ofOptions, Outcome.bind_eq_ok] at listed
      rcases listed with ⟨id, -, listed⟩
      rw [Outcome.bind_eq_ok] at listed
      rcases listed with ⟨rest, later, listed⟩
      rw [Outcome.pure_eq_ok] at listed
      rw [← listed, List.map_cons, induction later]

def ofText (position : Nat) (content : Text) : Choice :=
  { id := toString position ++ "_" ++ Text.lower (Naming.underscored content)
    title := .text content }

theorem ofOptions_texts (position : Nat) (contents : List Text) :
    ofOptions position (contents.map .text) =
      .ok ((contents.zipIdx position).map fun entry => ofText entry.2 entry.1) := by
  induction contents generalizing position with
  | nil => rfl
  | cons content contents induction =>
      simp only [List.map_cons, ofOptions, Naming.optionId, induction, Outcome.ok_bind,
        List.zipIdx_cons]
      rfl

def offered (options : Value) : Except Fault (Option (List Choice)) :=
  if options.isNull then pure none
  else (do ofOptions 0 (← orFault .wrongKind options.parts?)).map some

theorem offered_list (options : List Value) :
    offered (.list options) = (ofOptions 0 options).map some := rfl

theorem offered_of_texts {options : Value} (texts : options.AbsentOrTexts) :
    Outcome.Succeeds (offered options) := by
  rcases texts with rfl | ⟨contents, rfl⟩
  · exact ⟨none, rfl⟩
  · exact ⟨_, by rw [offered_list, ofOptions_texts]; rfl⟩

theorem options_of_offered {options : Value} {source : Option (List Choice)}
    (texts : options.AbsentOrTexts) (listed : offered options = .ok source) :
    options = source.elim .null fun choices => .list (choices.map Choice.title) := by
  rcases texts with rfl | ⟨contents, rfl⟩
  · rcases Except.ok.inj listed with rfl
    rfl
  · rw [offered_list, Outcome.map_eq_ok] at listed
    rcases listed with ⟨choices, titled, rfl⟩
    rw [Option.elim_some, title_of_ofOptions titled]

end Choice

/-! ## Components -/

namespace Component

/-- The label is absent or a text, and the options are absent or texts. -/
def Textual : Component → Prop
  | .static _ _ _ => True
  | .input _ _ label _ => label.AbsentOrText
  | .choice _ _ label _ options => label.AbsentOrText ∧ options.AbsentOrTexts
  | .foreign => True

def widget? (screen position : Value) (component : Component) : Except Fault Widget :=
  (component.compile screen position).map Prod.fst

variable {screen position : Value}

theorem compile_choice (type : ChoiceType) (name label required options : Value) :
    (Component.choice type name label required options).compile screen position =
      (do
        let key ← Naming.qualifiedName screen position name
        let shown ← Naming.truncateLabel Naming.maxLabelLength label
        let report ← Diagnostic.ofLabel? screen key label shown
        let source ← Choice.offered options
        return (.choice type shown key required source, report)) := by
  rw [compile, Choice.offered]
  cases options.isNull <;> rfl

/-- What a component compiles to: its widget, and the note about its label. -/
inductive Compiles (screen position : Value) : Component → Widget × Option Diagnostic → Prop where
  | static {type : StaticType} {text name : Value} :
      Compiles screen position (.static type text name) (.display type text, none)
  | input {type : InputType} {name label required shown : Value} {key : Text}
      {note : Option Diagnostic} (named : Naming.qualifiedName screen position name = .ok key)
      (cut : Naming.truncateLabel Naming.maxLabelLength label = .ok shown)
      (noted : Diagnostic.ofLabel? screen key label shown = .ok note) :
      Compiles screen position (.input type name label required)
        (.input type shown key required, note)
  | choice {type : ChoiceType} {name label required options shown : Value} {key : Text}
      {note : Option Diagnostic} {source : Option (List Choice)}
      (named : Naming.qualifiedName screen position name = .ok key)
      (cut : Naming.truncateLabel Naming.maxLabelLength label = .ok shown)
      (noted : Diagnostic.ofLabel? screen key label shown = .ok note)
      (listed : Choice.offered options = .ok source) :
      Compiles screen position (.choice type name label required options)
        (.choice type shown key required source, note)

theorem compile_eq_ok_iff {component : Component} {part : Widget × Option Diagnostic} :
    component.compile screen position = .ok part ↔ Compiles screen position component part := by
  constructor
  · intro made
    cases component with
    | static type text name =>
        rcases Except.ok.inj made with rfl
        exact .static
    | input type name label required =>
        rcases Outcome.bind_eq_ok.mp made with ⟨key, named, made⟩
        rcases Outcome.bind_eq_ok.mp made with ⟨shown, cut, made⟩
        rcases Outcome.bind_eq_ok.mp made with ⟨note, noted, made⟩
        rcases Outcome.pure_eq_ok.mp made with rfl
        exact .input named cut noted
    | choice type name label required options =>
        rw [compile_choice] at made
        rcases Outcome.bind_eq_ok.mp made with ⟨key, named, made⟩
        rcases Outcome.bind_eq_ok.mp made with ⟨shown, cut, made⟩
        rcases Outcome.bind_eq_ok.mp made with ⟨note, noted, made⟩
        rcases Outcome.bind_eq_ok.mp made with ⟨source, listed, made⟩
        rcases Outcome.pure_eq_ok.mp made with rfl
        exact .choice named cut noted listed
    | foreign => cases made
  · intro compiles
    cases compiles with
    | static => rfl
    | input named cut noted =>
        rw [compile, named, Outcome.ok_bind, cut, Outcome.ok_bind, noted]
        rfl
    | choice named cut noted listed =>
        rw [compile_choice, named, Outcome.ok_bind, cut, Outcome.ok_bind, noted, Outcome.ok_bind,
          listed]
        rfl

theorem widget?_static (type : StaticType) (text name : Value) :
    (Component.static type text name).widget? screen position = .ok (.display type text) := rfl

theorem widget?_foreign : Component.foreign.widget? screen position = .error .wrongKind := rfl

theorem widget?_input {label : Value} (textual : label.AbsentOrText) (type : InputType)
    (name required : Value) :
    (Component.input type name label required).widget? screen position =
      (Naming.qualifiedName screen position name).map fun key =>
        .input type (Naming.cut label) key required := by
  rw [widget?, compile]
  cases named : Naming.qualifiedName screen position name with
  | error fault => rfl
  | ok key =>
      rcases Diagnostic.ofLabel?_of_textual textual screen (Naming.cut label) key with
        ⟨report, reported⟩
      simp [Naming.truncateLabel_of_textual textual, reported, bind, Except.bind, pure,
        Except.pure, Except.map]

theorem widget?_choice {label : Value} (textual : label.AbsentOrText) (type : ChoiceType)
    (name required options : Value) :
    (Component.choice type name label required options).widget? screen position =
      (do
        let key ← Naming.qualifiedName screen position name
        let source ← Choice.offered options
        return .choice type (Naming.cut label) key required source) := by
  rw [widget?, compile_choice]
  cases named : Naming.qualifiedName screen position name with
  | error fault => rfl
  | ok key =>
      rcases Diagnostic.ofLabel?_of_textual textual screen (Naming.cut label) key with
        ⟨report, reported⟩
      simp only [Naming.truncateLabel_of_textual textual, reported, bind, Except.bind]
      cases Choice.offered options <;> rfl

end Component

/-! ## Screens -/

/-- What a component at its place compiles to. -/
def Placed.compiled (placed : Placed) : Except Fault (Widget × Option Diagnostic) :=
  placed.component.compile (.text placed.screen) (.int placed.position)

namespace Screen

def widgets? (screen : Screen) : Except Fault (List Widget) :=
  (Sequence.indexed screen.components).mapM fun entry =>
    entry.2.widget? (.text screen.id) (.int entry.1)

theorem compileAll_eq (id : Text) (entries : List (Nat × Component)) :
    Component.compileAll id entries =
      (entries.mapM fun entry => Placed.compiled ⟨id, entry.1, entry.2⟩).map fun parts =>
        (parts.map Prod.fst, parts.filterMap Prod.snd) := by
  induction entries with
  | nil => rfl
  | cons entry entries induction =>
      rw [Component.compileAll, List.mapM_cons, induction, Placed.compiled]
      cases entry.2.compile (.text id) (.int entry.1) with
      | error fault => rfl
      | ok part =>
          cases entries.mapM fun entry => Placed.compiled ⟨id, entry.1, entry.2⟩ with
          | error fault => rfl
          | ok parts =>
              cases noted : part.2 <;>
                simp [bind, Except.bind, Except.map, pure, Except.pure, noted]

theorem parts_eq (screen : Screen) :
    screen.parts = (screen.placed.mapM Placed.compiled).map fun parts =>
      (parts.map Prod.fst, parts.filterMap Prod.snd) := by
  rw [parts, compileAll_eq, placed, List.mapM_map]
  rfl

theorem parts_eq_ok_iff {screen : Screen} {part : List Widget × List Diagnostic} :
    screen.parts = .ok part ↔
      ∃ parts, List.Forall₂ (fun placed part => placed.compiled = .ok part) screen.placed parts ∧
        (parts.map Prod.fst, parts.filterMap Prod.snd) = part := by
  rw [parts_eq, Outcome.map_eq_ok]
  simp only [Outcome.mapM_eq_ok_iff]

theorem widgets?_of_parts {screen : Screen} {part : List Widget × List Diagnostic}
    (made : screen.parts = .ok part) : screen.widgets? = .ok part.1 := by
  rw [parts_eq, Outcome.map_eq_ok] at made
  rcases made with ⟨parts, stepped, rfl⟩
  have widgets : screen.widgets? =
      (screen.placed.mapM Placed.compiled).map (List.map Prod.fst) := by
    rw [Outcome.map_mapM, placed, List.mapM_map]
    rfl
  rw [widgets, stepped]
  rfl

end Screen

theorem Schema.succeeds_parts_iff {schema : Schema} :
    Outcome.Succeeds (schema.screens.mapM Screen.parts) ↔
      ∀ placed ∈ schema.placed, Outcome.Succeeds placed.compiled := by
  simp only [Outcome.mapM_succeeds_iff, Screen.parts_eq, Outcome.succeeds_map_iff, Schema.placed,
    List.forall_mem_flatMap]

def Schema.CompilesTo (schema : Schema) (rows : List (List (Widget × Option Diagnostic))) : Prop :=
  List.Forall₂ (fun screen row =>
    List.Forall₂ (fun placed part => placed.compiled = .ok part) screen.placed row)
    schema.screens rows

theorem Schema.compile_eq_ok_iff_rows {schema : Schema} {flow : CompiledFlow} :
    schema.compile = .ok flow ↔ schema.validate = .ok () ∧ ∃ rows, schema.CompilesTo rows ∧
      schema.flowWith (rows.map fun row => (row.map Prod.fst, row.filterMap Prod.snd)) = flow := by
  have parts : schema.screens.mapM Screen.parts =
      (schema.screens.mapM fun screen : Screen => screen.placed.mapM Placed.compiled).map
        (List.map fun row => (row.map Prod.fst, row.filterMap Prod.snd)) := by
    rw [Outcome.map_mapM]
    exact Outcome.mapM_congr (List.forall₂_same.mpr fun screen _ => Screen.parts_eq screen)
  have rows {rows : List (List (Widget × Option Diagnostic))} :
      (schema.screens.mapM fun screen : Screen => screen.placed.mapM Placed.compiled) = .ok rows ↔
        schema.CompilesTo rows := by
    simp only [Outcome.mapM_eq_ok_iff, CompilesTo]
  rw [compile_eq_ok_iff, validate_eq_ok_iff, parts, and_assoc]
  simp only [Outcome.map_eq_ok, rows]
  refine and_congr_right fun _ => and_congr_right fun _ => ?_
  constructor
  · intro given
    rcases given with ⟨_, ⟨rows, compiles, rfl⟩, rfl⟩
    exact ⟨rows, compiles, rfl⟩
  · intro given
    rcases given with ⟨rows, compiles, rfl⟩
    exact ⟨_, ⟨rows, compiles, rfl⟩, rfl⟩

/-! ## Documents -/

theorem Value.isNull_iff {value : Value} : value.isNull = true ↔ value = .null := by
  cases value <;> simp [isNull]

theorem optionalField_append_inj {name : Text} {first second : Value}
    {rest rest' : List (Value × Value)} (clear : ∀ entry ∈ rest, entry.1 ≠ .text name)
    (clear' : ∀ entry ∈ rest', entry.1 ≠ .text name)
    (equal : optionalField name first ++ rest = optionalField name second ++ rest') :
    first = second ∧ rest = rest' := by
  unfold optionalField at equal
  split at equal <;> split at equal
  · next absent absent' =>
      exact ⟨(Value.isNull_iff.mp absent).trans (Value.isNull_iff.mp absent').symm, equal⟩
  · have there : field name second ∈ rest := by
      rw [List.nil_append] at equal
      simp [equal]
    exact absurd rfl (clear _ there)
  · have there : field name first ∈ rest' := by
      rw [List.nil_append] at equal
      simp [← equal]
    exact absurd rfl (clear' _ there)
  · rcases List.cons.inj equal with ⟨head, tail⟩
    exact ⟨congrArg Prod.snd head, tail⟩

theorem Choice.toValue_injective {first second : Choice} (equal : first.toValue = second.toValue) :
    first = second := by
  cases first
  cases second
  simpa [toValue, field] using equal

theorem ComponentType.widget_injective {first second : ComponentType}
    (equal : first.widget = second.widget) : first = second := by
  rcases first with first | first | first <;> rcases second with second | second | second <;>
    cases first <;> cases second <;> first | rfl | exact absurd equal (by decide)

namespace Widget

/-- The type of the components that a widget shows. -/
def type : Widget → ComponentType
  | .display type _ => .static type
  | .input type _ _ _ => .input type
  | .choice type _ _ _ _ => .choice type

def fields : Widget → List (Value × Value)
  | .display _ text => optionalField "text" text ++ []
  | .input type label name required =>
      optionalField "label" label ++ ([field "name" (.text name), field "required" required] ++
        if type = .input then [field "input-type" (.text "text")] else [])
  | .choice _ label name required source =>
      optionalField "label" label ++ (field "name" (.text name) ::
        ((source.elim [] fun choices =>
          [field "data-source" (.list (choices.map Choice.toValue))]) ++
        [field "required" required]))

theorem toValue_eq (widget : Widget) :
    widget.toValue = .map (field "type" (.text widget.type.widget) :: widget.fields) := by
  cases widget <;> simp [toValue, fields, type]

theorem fields_injective {first second : Widget} (same : first.type = second.type)
    (equal : first.fields = second.fields) : first = second := by
  cases first with
  | display kind text =>
      cases second <;> simp only [type, ComponentType.static.injEq, reduceCtorEq] at same
      subst same
      rcases optionalField_append_inj (by simp) (by simp) equal with ⟨rfl, -⟩
      rfl
  | input kind label name required =>
      cases second <;> simp only [type, ComponentType.input.injEq, reduceCtorEq] at same
      subst same
      rcases optionalField_append_inj (by simp [field]) (by simp [field]) equal with ⟨rfl, rest⟩
      simp_all [field]
  | choice kind label name required source =>
      cases second with
      | choice kind' label' name' required' source' =>
          rcases ComponentType.choice.inj same with rfl
          have clear (listed : Option (List Choice)) (name : Text) (required : Value) :
              ∀ entry ∈ field "name" (.text name) ::
                ((listed.elim [] fun choices =>
                  [field "data-source" (.list (choices.map Choice.toValue))]) ++
                [field "required" required]), entry.1 ≠ .text "label" := by
            cases listed <;> simp [field]
          rcases optionalField_append_inj (clear source name required)
            (clear source' name' required') equal with ⟨rfl, rest⟩
          rcases List.cons.inj rest with ⟨named, rest⟩
          rcases List.append_inj' rest rfl with ⟨offered, needed⟩
          have listed : source = source' := by
            cases source with
            | none => cases source' <;> simp at offered ⊢
            | some choices =>
                cases source' with
                | none => simp at offered
                | some choices' =>
                    have values : choices.map Choice.toValue = choices'.map Choice.toValue := by
                      simpa [field] using offered
                    rw [List.map_injective_iff.mpr (fun _ _ => Choice.toValue_injective) values]
          simp_all [field]
      | _ => cases same

theorem toValue_injective {first second : Widget} (equal : first.toValue = second.toValue) :
    first = second := by
  rw [toValue_eq, toValue_eq, Value.map.injEq] at equal
  rcases List.cons.inj equal with ⟨typed, rest⟩
  have word : first.type.widget = second.type.widget := by simpa [field] using typed
  exact fields_injective (ComponentType.widget_injective word) rest

end Widget

end ScreenFlow
