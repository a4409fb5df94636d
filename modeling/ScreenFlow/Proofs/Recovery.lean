import ScreenFlow.Proofs.Page
import ScreenFlow.Proofs.Wiring

namespace ScreenFlow

/-! What a compiled form tells about the form it came from. A label is cut, the white space of a
name is replaced, and a name that does not count is dropped. Everything else can be read in the
document again: what the widgets do not show stands in the expressions of what is handed on. -/

/-! ## Normal forms -/

namespace Naming

def plain : Value → Value
  | .text name => .text (underscored name)
  | name => name

theorem qualifiedName_plain (screen position name : Value) :
    qualifiedName screen position (plain name) = qualifiedName screen position name := by
  cases name with
  | text content => rw [plain, qualifiedName, qualifiedName, joinKey_underscored]
  | _ => rfl

theorem isGiven_plain (name : Value) : (plain name).isGiven = name.isGiven := by
  cases name with
  | text content =>
      rw [Bool.eq_iff_iff]
      simp [plain, Value.isGiven, underscored_eq_empty_iff]
  | _ => rfl

end Naming

namespace Component

/-- A component with its label cut and its name without white space; a static component whose name
does not count has none. -/
def normal : Component → Component
  | .static type text name => .static type text (if name.isGiven then Naming.plain name else .null)
  | .input type name label required =>
      .input type (Naming.plain name) (Naming.cut label) required
  | .choice type name label required options =>
      .choice type (Naming.plain name) (Naming.cut label) required options
  | .foreign => .foreign

theorem ofComponent_normal (component : Component) :
    Placeholder.ofComponent component.normal = .ofComponent component := by
  cases component with
  | choice type => cases type <;> rfl
  | _ => rfl

theorem widget?_normal {component : Component} (textual : component.Textual)
    (screen position : Value) :
    component.normal.widget? screen position = component.widget? screen position := by
  cases component with
  | static type text name => rfl
  | input type name label required =>
      rw [normal, widget?_input (Naming.absentOrText_cut textual), widget?_input textual,
        Naming.qualifiedName_plain, Naming.cut_cut]
  | choice type name label required options =>
      rw [normal, widget?_choice (Naming.absentOrText_cut textual.1), widget?_choice textual.1,
        Naming.qualifiedName_plain, Naming.cut_cut]
  | foreign => rfl

end Component

namespace Placed

/-- A component in its place, in normal form. -/
def normal (placed : Placed) : Placed := { placed with component := placed.component.normal }

theorem boundKey?_plain {screen : Text} {position : Nat} {component component' : Component}
    {name : Value} (named : component.name? = some name)
    (named' : component'.name? = some (Naming.plain name)) :
    boundKey? ⟨screen, position, component'⟩ = boundKey? ⟨screen, position, component⟩ := by
  have same := Naming.isGiven_plain name
  cases given : name.isGiven with
  | false =>
      rw [boundKey?_of_not_given named' (same.trans given), boundKey?_of_not_given named given]
  | true =>
      rw [boundKey?_of_given named' (same.trans given), boundKey?_of_given named given]
      simp only [Naming.qualifiedName_plain]

theorem boundKey?_normal (placed : Placed) : placed.normal.boundKey? = placed.boundKey? := by
  rcases placed with ⟨screen, position, component⟩
  cases component with
  | static type text name =>
      by_cases given : name.isGiven
      · exact boundKey?_plain rfl (by rw [Component.normal, if_pos given]; rfl)
      · have unnamed : boundKey? ⟨screen, position, .static type text name⟩ = .ok none :=
          boundKey?_of_not_given rfl (by simpa using given)
        rw [unnamed, normal, Component.normal, if_neg given]
        exact boundKey?_of_not_given rfl rfl
  | input type name label required => exact boundKey?_plain rfl rfl
  | choice type name label required options => exact boundKey?_plain rfl rfl
  | foreign => rfl

end Placed

theorem Component.wiredAs_of_normal {component component' : Component}
    (equal : component.normal = component'.normal) : component.WiredAs component' where
  keys screen position := by
    have key := Placed.boundKey?_normal ⟨screen, position, component⟩
    have key' := Placed.boundKey?_normal ⟨screen, position, component'⟩
    rw [Placed.normal] at key key'
    rw [← key, ← key', equal]
  kind := by rw [← ofComponent_normal, equal, ofComponent_normal]

/-! ## Forms in normal form -/

namespace Screen

/-- A screen with its components in normal form. -/
def normal (screen : Screen) : Screen :=
  { screen with components := screen.components.map Component.normal }

theorem widgets?_normal {screen : Screen}
    (textual : ∀ component ∈ screen.components, component.Textual) :
    screen.normal.widgets? = screen.widgets? := by
  rw [widgets?, widgets?, normal, Sequence.indexed_map, List.mapM_map]
  apply Outcome.mapM_congr
  rw [List.forall₂_same]
  intro entry member
  exact Component.widget?_normal
    (textual entry.2 (Sequence.snd_mem_of_mem_indexed member)) _ _

theorem parts_of_normal {screen screen' : Screen} (equal : screen.normal = screen'.normal) :
    screen.id = screen'.id ∧ screen.title = screen'.title ∧
      List.Forall₂ (fun component component' => component.normal = component'.normal)
        screen.components screen'.components := by
  rw [normal, normal, Screen.mk.injEq] at equal
  exact ⟨equal.1, equal.2.1, Outcome.forall₂_of_map_eq equal.2.2⟩

theorem wiredAs_of_normal {screen screen' : Screen} (equal : screen.normal = screen'.normal) :
    screen.WiredAs screen' := by
  rcases parts_of_normal equal with ⟨id, -, components⟩
  exact ⟨id, components.imp fun _ _ => Component.wiredAs_of_normal⟩

end Screen

namespace Schema

/-- A form with all components in normal form. -/
def normal (schema : Schema) : Schema := ⟨schema.screens.map Screen.normal⟩

/-! ## Forms with one normal form -/

/-- Labels are absent or texts, and options are absent or texts. -/
def Textual (schema : Schema) : Prop :=
  ∀ screen ∈ schema.screens, ∀ component ∈ screen.components, component.Textual

variable {schema schema' : Schema} {flow flow' : CompiledFlow}

theorem document_of_normal (textual : schema.Textual) (textual' : schema'.Textual)
    (compiled : schema.compile = .ok flow) (compiled' : schema'.compile = .ok flow')
    (equal : schema.normal = schema'.normal) : flow.document = flow'.document := by
  have each : List.Forall₂ (fun screen screen' => screen.normal = screen'.normal)
      schema.screens schema'.screens := Outcome.forall₂_of_map_eq (congrArg Schema.screens equal)
  have wired : schema.WiredAs schema' := each.imp fun _ _ => Screen.wiredAs_of_normal
  refine wired.document_eq ?_ compiled compiled'
  rw [List.forall₂_iff_zip]
  refine ⟨each.length_eq, fun {screen screen'} member => ?_⟩
  have same := List.forall₂_zip each member
  refine ⟨(Screen.parts_of_normal same).2.1, ?_⟩
  rw [← Screen.widgets?_normal (textual _ (List.of_mem_zip member).1), same,
    Screen.widgets?_normal (textual' _ (List.of_mem_zip member).2)]

end Schema

/-! ## Reading components back -/

namespace Component

variable {screen : Text} {position : Nat}

theorem static_name (type : StaticType) (text : Value) {name : Value}
    (nameable : (Component.static type text name).Nameable) :
    (Placed.key? ⟨screen, position, .static type text name⟩ = none ∧
        (Component.static type text name).normal = .static type text .null) ∨
      ∃ content, Placed.key? ⟨screen, position, .static type text name⟩ =
          some (Naming.joinKey screen content (toString position)) ∧
        (Component.static type text name).normal =
          .static type text (.text (Naming.underscored content)) := by
  rcases nameable with ⟨_, named, texts⟩
  rcases Option.some.inj named with rfl
  by_cases given : name.isGiven
  · rcases texts given with ⟨content, rfl⟩
    have filled : content ≠ "" := by simpa [Value.isGiven] using given
    exact .inr ⟨content, Placed.key?_of_text rfl filled, by rw [normal, if_pos given]; rfl⟩
  · refine .inl ⟨?_, by rw [normal, if_neg given]⟩
    cases name <;> simp_all [Placed.key?, name?, Value.isGiven]

theorem input_of_widget {type : InputType} {name label required : Value} {widget : Widget}
    (textual : (Component.input type name label required).Textual)
    (shown : (Component.input type name label required).widget? (.text screen) (.int position) =
      .ok widget) :
    ∃ content, name = .text content ∧ widget = .input type (Naming.cut label)
      (Naming.joinKey screen content (toString position)) required := by
  rw [widget?_input textual, Outcome.map_eq_ok] at shown
  rcases shown with ⟨key, qualified, rfl⟩
  rcases Naming.qualifiedName_eq_ok_iff.mp qualified with ⟨content, rfl, rfl⟩
  exact ⟨content, rfl, rfl⟩

theorem choice_of_widget {type : ChoiceType} {name label required options : Value}
    {widget : Widget} (textual : (Component.choice type name label required options).Textual)
    (shown : (Component.choice type name label required options).widget? (.text screen)
      (.int position) = .ok widget) :
    ∃ content source, name = .text content ∧
      options = (source.elim .null fun choices => .list (choices.map Choice.title)) ∧
        widget = .choice type (Naming.cut label)
          (Naming.joinKey screen content (toString position)) required source := by
  rw [widget?_choice textual.1, Outcome.bind_eq_ok] at shown
  rcases shown with ⟨key, qualified, shown⟩
  rw [Outcome.bind_eq_ok] at shown
  rcases shown with ⟨source, offered, shown⟩
  rw [Outcome.pure_eq_ok] at shown
  rcases Naming.qualifiedName_eq_ok_iff.mp qualified with ⟨content, rfl, rfl⟩
  exact ⟨content, source, rfl, Choice.options_of_offered textual.2 offered, shown.symm⟩

theorem normal_eq_of_widget {component component' : Component} {widget : Widget}
    (textual : component.Textual) (textual' : component'.Textual)
    (nameable : component.Nameable) (nameable' : component'.Nameable)
    (shown : component.widget? (.text screen) (.int position) = .ok widget)
    (shown' : component'.widget? (.text screen) (.int position) = .ok widget)
    (keyed : Placed.key? ⟨screen, position, component⟩ =
      Placed.key? ⟨screen, position, component'⟩) :
    component.normal = component'.normal := by
  -- The widget tells which of the constructors it is. A static component shows no name, so its
  -- name has to come from the key.
  cases component with
  | static type text name =>
      rw [widget?_static] at shown
      rcases Except.ok.inj shown with rfl
      cases component' with
      | static type' text' name' =>
          rw [widget?_static] at shown'
          rcases Widget.display.inj (Except.ok.inj shown') with ⟨rfl, rfl⟩
          rcases static_name type' text' nameable with ⟨key, plain⟩ | ⟨content, key, plain⟩ <;>
            rcases static_name type' text' nameable' with
              ⟨key', plain'⟩ | ⟨content', key', plain'⟩ <;>
            rw [key, key'] at keyed
          · rw [plain, plain']
          · cases keyed
          · cases keyed
          · rw [Option.some.injEq, Naming.joinKey_eq_iff_of_screen] at keyed
            rw [plain, plain', keyed.1]
      | input => rcases input_of_widget textual' shown' with ⟨_, _, other⟩; cases other
      | choice => rcases choice_of_widget textual' shown' with ⟨_, _, _, _, other⟩; cases other
      | foreign => cases shown'
  | input type name label required =>
      rcases input_of_widget textual shown with ⟨content, rfl, rfl⟩
      cases component' with
      | static => cases shown'
      | input type' name' label' required' =>
          rcases input_of_widget textual' shown' with ⟨content', rfl, same⟩
          rcases Widget.input.inj same with ⟨rfl, labels, keys, rfl⟩
          rw [Naming.joinKey_eq_iff_of_screen] at keys
          rw [normal, normal, labels, Naming.plain, keys.1, Naming.plain]
      | choice => rcases choice_of_widget textual' shown' with ⟨_, _, _, _, other⟩; cases other
      | foreign => cases shown'
  | choice type name label required options =>
      rcases choice_of_widget textual shown with ⟨content, source, rfl, rfl, rfl⟩
      cases component' with
      | static => cases shown'
      | input => rcases input_of_widget textual' shown' with ⟨_, _, other⟩; cases other
      | choice type' name' label' required' options' =>
          rcases choice_of_widget textual' shown' with ⟨content', source', rfl, rfl, same⟩
          rcases Widget.choice.inj same with ⟨rfl, labels, keys, rfl, rfl⟩
          rw [Naming.joinKey_eq_iff_of_screen] at keys
          rw [normal, normal, labels, Naming.plain, keys.1, Naming.plain]
      | foreign => cases shown'
  | foreign =>
      rw [widget?_foreign] at shown
      cases shown

end Component

/-! ## Reading screens back -/

namespace Screen

theorem mem_keys_keyed_iff {screen : Screen} {key : Text} :
    key ∈ Ordered.keys (keyed [screen]) ↔
      ∃ position component, screen.components[position]? = some component ∧
        Placed.key? ⟨screen.id, position, component⟩ = some key := by
  rw [keys_keyed, List.flatMap_singleton, List.mem_filterMap]
  constructor
  · intro given
    rcases given with ⟨⟨id, position, component⟩, member, keyed⟩
    rcases mem_placed_iff.mp member with ⟨rfl, found⟩
    exact ⟨position, component, found, keyed⟩
  · intro given
    rcases given with ⟨position, component, found, keyed⟩
    exact ⟨⟨screen.id, position, component⟩, mem_placed_iff.mpr ⟨rfl, found⟩, keyed⟩

variable {screen screen' : Screen} {position : Nat} {component component' : Component}

theorem key?_of_mem_keys (sameId : screen.id = screen'.id)
    (keys : Ordered.keys (keyed [screen]) = Ordered.keys (keyed [screen']))
    (found : screen.components[position]? = some component)
    (found' : screen'.components[position]? = some component') {key : Text}
    (keyed : Placed.key? ⟨screen.id, position, component⟩ = some key) :
    Placed.key? ⟨screen'.id, position, component'⟩ = some key := by
  have member := mem_keys_keyed_iff.mpr ⟨position, component, found, keyed⟩
  rw [keys] at member
  rcases mem_keys_keyed_iff.mp member with ⟨place, other, there, keyed'⟩
  rcases Placed.key?_eq_some keyed with ⟨name, -, first⟩
  rcases Placed.key?_eq_some keyed' with ⟨name', -, second⟩
  have places : position = place := by
    rw [first, sameId] at second
    exact (Naming.joinKey_eq_iff_of_screen.mp second).2
  subst places
  rw [found', Option.some.injEq] at there
  rw [there, keyed']

theorem key?_eq_of_keys (sameId : screen.id = screen'.id)
    (keys : Ordered.keys (keyed [screen]) = Ordered.keys (keyed [screen']))
    (found : screen.components[position]? = some component)
    (found' : screen'.components[position]? = some component') :
    Placed.key? ⟨screen.id, position, component⟩ =
      Placed.key? ⟨screen'.id, position, component'⟩ :=
  Option.ext fun _ => ⟨key?_of_mem_keys sameId keys found found',
    key?_of_mem_keys sameId.symm keys.symm found' found⟩

theorem widget?_of_found {widgets : List Widget} (shown : screen.widgets? = .ok widgets)
    (found : screen.components[position]? = some component) :
    ∃ widget, widgets[position]? = some widget ∧
      component.widget? (.text screen.id) (.int position) = .ok widget := by
  have entry : (Sequence.indexed screen.components)[position]? = some (position, component) := by
    rw [Sequence.getElem?_indexed, found, Option.map_some]
  exact Outcome.getElem?_of_mapM shown entry

theorem length_of_widgets? {widgets : List Widget} (shown : screen.widgets? = .ok widgets) :
    widgets.length = screen.components.length := by
  have lengths := (Outcome.mapM_eq_ok_iff.mp shown).length_eq
  rw [← List.length_map Prod.snd, Sequence.map_snd_indexed] at lengths
  exact lengths.symm

theorem components_of_widgets {widgets : List Widget} (sameId : screen.id = screen'.id)
    (textual : ∀ component ∈ screen.components, component.Textual)
    (textual' : ∀ component ∈ screen'.components, component.Textual)
    (nameable : ∀ component ∈ screen.components, component.Nameable)
    (nameable' : ∀ component ∈ screen'.components, component.Nameable)
    (shown : screen.widgets? = .ok widgets) (shown' : screen'.widgets? = .ok widgets)
    (keys : Ordered.keys (keyed [screen]) = Ordered.keys (keyed [screen'])) :
    screen.components.map Component.normal = screen'.components.map Component.normal := by
  have lengths : screen.components.length = screen'.components.length := by
    rw [← length_of_widgets? shown, ← length_of_widgets? shown']
  apply List.ext_getElem (by simpa using lengths)
  intro position inside inside'
  rw [List.length_map] at inside inside'
  have found := List.getElem?_eq_getElem inside
  have found' := List.getElem?_eq_getElem inside'
  rcases widget?_of_found shown found with ⟨widget, there, made⟩
  rcases widget?_of_found shown' found' with ⟨widget', there', made'⟩
  rw [there, Option.some.injEq] at there'
  rw [← there'] at made'
  have keyed := key?_eq_of_keys sameId keys found found'
  rw [sameId] at made keyed
  rw [List.getElem_map, List.getElem_map]
  exact Component.normal_eq_of_widget (textual _ (List.getElem_mem inside))
    (textual' _ (List.getElem_mem inside')) (nameable _ (List.getElem_mem inside))
    (nameable' _ (List.getElem_mem inside')) made made' keyed

end Screen

/-! ## Reading documents back -/

namespace Reference

def form? : Reference → Option Text
  | .form key => some key
  | .data _ => none

end Reference

theorem tableValue_injective {toValue : α → Value}
    (injective : ∀ first second, toValue first = toValue second → first = second)
    {table table' : List (Text × α)}
    (equal : tableValue toValue table = tableValue toValue table') : table = table' := by
  refine List.map_injective_iff.mpr (fun first second same => ?_) (Value.map.inj equal)
  rcases Prod.mk.inj same with ⟨keys, values⟩
  exact Prod.ext (Value.text.inj keys) (injective _ _ values)

namespace ScreenRecord

variable {record record' : ScreenRecord}

theorem parts_of_toValue (equal : record.toValue = record'.toValue) :
    record.id = record'.id ∧ record.title = record'.title ∧ record.widgets = record'.widgets ∧
      record.action.payload = record'.action.payload := by
  have parts : record.id = record'.id ∧ record.title = record'.title ∧
      record.widgets.map Widget.toValue ++ [record.footerValue] =
        record'.widgets.map Widget.toValue ++ [record'.footerValue] := by
    simp only [toValue, field, Value.map.injEq, Value.list.injEq, Value.text.injEq,
      List.cons.injEq, Prod.mk.injEq] at equal
    tauto
  rcases parts with ⟨ids, titles, children⟩
  rcases List.append_inj' children rfl with ⟨widgets, footers⟩
  have actions : record.action.toValue = record'.action.toValue := by
    simp only [footerValue, field, Value.map.injEq, List.cons.injEq, Prod.mk.injEq] at footers
    tauto
  have payloads := congrArg (Value.member? "payload") actions
  rw [Page.payload_action, Page.payload_action, Option.some.injEq] at payloads
  refine ⟨ids, titles, ?_, ?_⟩
  · exact List.map_injective_iff.mpr (fun _ _ => Widget.toValue_injective) widgets
  · refine tableValue_injective (fun first second same => ?_) payloads
    exact Reference.render_injective (Value.text.inj same)

end ScreenRecord

namespace Schema

variable {schema schema' : Schema} {position : Nat} {screen screen' : Screen}
  {flow flow' : CompiledFlow}

theorem keys_of_handedOn (schema : Schema) (position : Nat) (screen : Screen) :
    ((schema.handedOn position screen).filterMap fun entry => entry.2.form?) =
      Ordered.keys (Screen.keyed [screen]) := by
  rw [handedOn, List.filterMap_append, List.filterMap_map, List.filterMap_map]
  simp [Function.comp_def, Reference.form?, Ordered.keys]

theorem Keyed.nameable_of_found (keyed : schema.Keyed)
    (found : schema.screens[position]? = some screen) :
    ∀ component ∈ screen.components, component.Nameable := by
  intro component member
  rcases List.mem_iff_getElem.mp member with ⟨place, inside, rfl⟩
  exact keyed.nameable_of_mem (List.mem_of_getElem? found)
    ⟨screen.id, place, screen.components[place]⟩
    (Screen.mem_placed_iff.mpr ⟨rfl, List.getElem?_eq_getElem inside⟩)

theorem screen_of_record (textual : schema.Textual) (textual' : schema'.Textual)
    (compiled : schema.compile = .ok flow) (compiled' : schema'.compile = .ok flow')
    (equal : flow.document.screens.map ScreenRecord.toValue =
      flow'.document.screens.map ScreenRecord.toValue)
    (found : schema.screens[position]? = some screen)
    (found' : schema'.screens[position]? = some screen') : screen.normal = screen'.normal := by
  rcases record_of_compile compiled found with ⟨part, made, record⟩
  rcases record_of_compile compiled' found' with ⟨part', made', record'⟩
  have records : (schema.recordAt position screen part.1).toValue =
      (schema'.recordAt position screen' part'.1).toValue := by
    have both := congrArg (fun records : List Value => records[position]?) equal
    simpa [record, record'] using both
  rcases ScreenRecord.parts_of_toValue records with ⟨ids, titles, widgets, payloads⟩
  have keys : Ordered.keys (Screen.keyed [screen]) = Ordered.keys (Screen.keyed [screen']) := by
    rw [← keys_of_handedOn schema position, ← keys_of_handedOn schema' position]
    simp only [recordAt, payload_leaving] at payloads
    rw [payloads]
  have shown := Screen.widgets?_of_parts made
  have shown' := Screen.widgets?_of_parts made'
  have components := Screen.components_of_widgets ids
    (textual screen (List.mem_of_getElem? found)) (textual' screen' (List.mem_of_getElem? found'))
    ((compile_eq_ok_iff.mp compiled).2.1.nameable_of_found found)
    ((compile_eq_ok_iff.mp compiled').2.1.nameable_of_found found') shown
    (by rw [shown']; exact congrArg Except.ok widgets.symm) keys
  cases screen
  cases screen'
  simp_all [Screen.normal, recordAt]

/-- Two forms have the same document exactly if they have the same normal form. -/
theorem document_eq_iff_normal_eq (textual : schema.Textual) (textual' : schema'.Textual)
    (compiled : schema.compile = .ok flow) (compiled' : schema'.compile = .ok flow') :
    flow.document.toValue = flow'.document.toValue ↔ schema.normal = schema'.normal := by
  constructor
  · intro equal
    have records : flow.document.screens.map ScreenRecord.toValue =
        flow'.document.screens.map ScreenRecord.toValue := by
      simp only [FlowDocument.toValue, field, Value.map.injEq, Value.list.injEq, List.cons.injEq,
        Prod.mk.injEq] at equal
      tauto
    have lengths : schema.screens.length = schema'.screens.length := by
      simpa [length_of_compile compiled, length_of_compile compiled'] using
        congrArg List.length records
    have screens : schema.screens.map Screen.normal = schema'.screens.map Screen.normal := by
      -- A record has the title and the widgets of its screen, and its payload has the keys.
      apply List.ext_getElem (by simpa using lengths)
      intro position inside inside'
      rw [List.length_map] at inside inside'
      rw [List.getElem_map, List.getElem_map]
      exact screen_of_record textual textual' compiled compiled' records
        (List.getElem?_eq_getElem inside) (List.getElem?_eq_getElem inside')
    rw [normal, normal, screens]
  · intro equal
    rw [document_of_normal textual textual' compiled compiled' equal]

/-- A form with a long label, white space in a name, and a static component with an empty name. -/
def spaced : Schema where
  screens := [{
    id := "guest"
    title := .text "Guest"
    components := [
      .static .heading (.text "Welcome") (.text ""),
      .static .caption (.text "") (.text "small print"),
      .input .input (.text "full  name") (.text "The full name of the guest") (.bool true),
      .choice .radio (.text "diet") .null (.bool false) (.list [.text "None", .text "Vegan"])] }]

def tidied : Schema where
  screens := [{
    id := "guest"
    title := .text "Guest"
    components := [
      .static .heading (.text "Welcome") .null,
      .static .caption (.text "") (.text "small_print"),
      .input .input (.text "full_name") (.text "The full name of the") (.bool true),
      .choice .radio (.text "diet") .null (.bool false) (.list [.text "None", .text "Vegan"])] }]

theorem document_of_spaced :
    ∃ flow flow', spaced.compile = .ok flow ∧ tidied.compile = .ok flow' ∧
      spaced.Textual ∧ tidied.Textual ∧ spaced ≠ tidied ∧
        flow.document.toValue = flow'.document.toValue := by
  have texts : (Value.list [.text "None", .text "Vegan"]).AbsentOrTexts :=
    .inr ⟨["None", "Vegan"], rfl⟩
  have textual : spaced.Textual := by
    simp [Textual, spaced, Component.Textual, Value.AbsentOrText, texts]
  have textual' : tidied.Textual := by
    simp [Textual, tidied, Component.Textual, Value.AbsentOrText, texts]
  have compiles : Outcome.Succeeds spaced.compile := by decide +kernel
  have compiles' : Outcome.Succeeds tidied.compile := by decide +kernel
  rcases compiles with ⟨flow, compiled⟩
  rcases compiles' with ⟨flow', compiled'⟩
  have equal : spaced.normal = tidied.normal := by decide +kernel
  exact ⟨flow, flow', compiled, compiled', textual, textual', by decide,
    (document_eq_iff_normal_eq textual textual' compiled compiled').mpr equal⟩

end Schema

end ScreenFlow
