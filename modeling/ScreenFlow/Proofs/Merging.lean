import ScreenFlow.Proofs.Contract
import ScreenFlow.Proofs.Widgets

namespace ScreenFlow

/-! What a screen hands on, in a form that is valid or not. Where ids or keys are repeated, the
tables of a screen are not the lists of what is bound; each key still has one place and one value,
and the form of the screen itself comes before the data it received. -/

open Outcome

/-! ## Components -/

namespace Component

/-- What has to be a text is one, as far as it is there: names, labels and options. -/
def Spelled : Component → Prop
  | .static _ _ name => name.AbsentOrText
  | .input _ name label _ => (∃ content, name = .text content) ∧ label.AbsentOrText
  | .choice _ name label _ options =>
      (∃ content, name = .text content) ∧ label.AbsentOrText ∧ options.AbsentOrTexts
  | .foreign => False

variable {component : Component}

theorem nameable_of_spelled (spelled : component.Spelled) : component.Nameable := by
  cases component with
  | static type text name =>
      rcases spelled with rfl | ⟨content, rfl⟩
      · exact ⟨.null, rfl, nofun⟩
      · exact ⟨.text content, rfl, fun _ => ⟨content, rfl⟩⟩
  | input type name label required => exact ⟨name, rfl, fun _ => spelled.1⟩
  | choice type name label required options => exact ⟨name, rfl, fun _ => spelled.1⟩
  | foreign => exact spelled.elim

theorem compile_succeeds_of_spelled (spelled : component.Spelled) (screen position : Value) :
    Succeeds (component.compile screen position) := by
  suffices shown : Succeeds (component.widget? screen position) from succeeds_map_iff.mp shown
  cases component with
  | static type text name => exact .ok _
  | input type name label required =>
      rcases spelled with ⟨⟨content, rfl⟩, textual⟩
      rw [widget?_input textual]
      exact .ok _
  | choice type name label required options =>
      rcases spelled with ⟨⟨content, rfl⟩, textual, texts⟩
      rcases Choice.offered_of_texts texts with ⟨source, listed⟩
      rw [widget?_choice textual, listed]
      exact .ok _
  | foreign => exact spelled.elim

end Component

/-! ## Screens -/

namespace Screen

/-- The keys of the components of some screens in order, as often as they come. -/
def keys (screens : List Screen) : List Text :=
  (screens.flatMap placed).filterMap Placed.key?

variable {screen : Screen} {screens : List Screen}

theorem bound_of_nameable
    (nameable : ∀ placed ∈ screens.flatMap Screen.placed, placed.component.Nameable) :
    bound screens = .ok (keyed screens) :=
  bound_eq_ok_iff.mpr ⟨nameable, rfl⟩

theorem map_keyed (rule : Text → Reference) (screens : List Screen) :
    (keyed screens).map (fun entry => (entry.1, rule entry.1)) =
      Ordered.tabulate rule (keys screens) := by
  rw [keys, ← keys_keyed, Ordered.tabulate, Ordered.keys, List.map_map]
  rfl

theorem dataReferences_of_nameable
    (nameable : ∀ placed ∈ screens.flatMap Screen.placed, placed.component.Nameable) :
    dataReferences screens = .ok (Ordered.tabulate .data (keys screens).eraseDups) := by
  simp only [dataReferences, bound_of_nameable nameable, ok_bind]
  rw [← Ordered.ofEntries_tabulate, ← map_keyed]
  rfl

theorem formReferences_of_nameable
    (nameable : ∀ placed ∈ screen.placed, placed.component.Nameable) :
    screen.formReferences = .ok (Ordered.tabulate .form (keys [screen]).eraseDups) := by
  have bound := @bound_of_nameable [screen] (by rwa [List.flatMap_singleton])
  simp only [formReferences, bound, ok_bind]
  rw [← Ordered.ofEntries_tabulate, ← map_keyed]
  rfl

/-- Where a screen takes the value of a key from that it hands on: from its own form if one of its
components has the key. -/
def origin (screen : Screen) (key : Text) : Reference :=
  if key ∈ keys [screen] then .form key else .data key

theorem payload_of_nameable (among : screen ∈ screens)
    (nameable : ∀ placed ∈ screens.flatMap Screen.placed, placed.component.Nameable) :
    screen.payload screens = .ok (Ordered.tabulate screen.origin (keys screens).eraseDups) := by
  have inside : ∀ placed ∈ screen.placed, placed.component.Nameable := fun placed member =>
    nameable placed (List.mem_flatMap.mpr ⟨screen, among, member⟩)
  -- The keys of the screen are among all keys, so its form changes values and no places.
  have within : ∀ key ∈ (keys [screen]).eraseDups, key ∈ (keys screens).eraseDups := by
    intro key member
    rw [List.mem_eraseDups, keys, List.flatMap_singleton, List.mem_filterMap] at member
    rcases member with ⟨placed, member, keyed⟩
    rw [List.mem_eraseDups, keys, List.mem_filterMap]
    exact ⟨placed, List.mem_flatMap.mpr ⟨screen, among, member⟩, keyed⟩
  rw [payload, dataReferences_of_nameable nameable, formReferences_of_nameable inside, ok_bind,
    ok_bind, Ordered.update_tabulate (Ordered.nodup_eraseDups _) _ _ within]
  simp only [List.mem_eraseDups]
  rfl

theorem parts_succeed_of_spelled (spelled : ∀ component ∈ screen.components, component.Spelled) :
    Succeeds screen.parts := by
  rw [parts_eq, succeeds_map_iff, mapM_succeeds_iff]
  intro placed member
  exact Component.compile_succeeds_of_spelled
    (spelled _ (List.mem_of_getElem? (mem_placed_iff.mp member).2)) _ _

end Screen

/-! ## Forms -/

namespace Schema

/-- Names, labels and options of all components are texts as far as they are there. -/
def Spelled (schema : Schema) : Prop :=
  ∀ screen ∈ schema.screens, ∀ component ∈ screen.components, component.Spelled

variable {schema : Schema} {position : Nat} {screen : Screen}

theorem nameable_take_of_spelled (spelled : schema.Spelled) (boundary : Nat) :
    ∀ placed ∈ (schema.screens.take boundary).flatMap Screen.placed,
      placed.component.Nameable := by
  intro placed member
  rcases List.mem_flatMap.mp member with ⟨screen, among, inside⟩
  exact Component.nameable_of_spelled (spelled screen (List.mem_of_mem_take among) _
    (List.mem_of_getElem? (Screen.mem_placed_iff.mp inside).2))

/-- A screen of a form that need not be valid compiles, and hands on what its own form and the data
of the screens up to it hold. -/
theorem assemble_of_spelled (spelled : schema.Spelled)
    (found : schema.screens[position]? = some screen) :
    ∃ assembled, schema.assemble position = .ok assembled ∧
      assembled.record.action.payload = Ordered.tabulate screen.origin
        (Screen.keys (schema.screens.take (position + 1))).eraseDups := by
  have among : screen ∈ schema.screens.take (position + 1) := by
    rw [take_succ_of_found found]
    exact List.mem_append_right _ (List.mem_singleton_self screen)
  have payload := Screen.payload_of_nameable among (nameable_take_of_spelled spelled _)
  have bound := Screen.bound_of_nameable (nameable_take_of_spelled spelled position)
  have data : Sequence.upTo schema.screens (position : Int) = schema.screens.take position :=
    Sequence.upTo_ofNat schema.screens position
  rcases Screen.parts_succeed_of_spelled (spelled screen (List.mem_of_getElem? found)) with
    ⟨part, made⟩
  rw [Screen.parts] at made
  rw [assemble, Sequence.at?_ofNat, found]
  simp only [orFault, made, boundary_eq found, payload, data, Screen.contracts, bound, ok_bind]
  refine ⟨_, rfl, ?_⟩
  cases schema.edge? position <;> rfl

/-- Whatever ids and keys a form repeats, the footer of each screen hands on every key of a component
up to that screen once, in the order in which the keys first come; for the keys of its own components
the value is taken from its form, and for all others from the data it received. -/
theorem payload_of_assemble (spelled : schema.Spelled)
    (found : schema.screens[position]? = some screen) :
    ∃ assembled exchange, schema.assemble position = .ok assembled ∧
      Exchange.ofRecord? assembled.record.toValue = some exchange ∧
      exchange.handedOn = Ordered.tabulate
        (fun key => .text (if key ∈ Screen.keys [screen] then "$\x7bform." ++ key ++ "\x7d"
          else "$\x7bdata." ++ key ++ "\x7d"))
        (Screen.keys (schema.screens.take (position + 1))).eraseDups := by
  rcases assemble_of_spelled spelled found with ⟨assembled, made, payload⟩
  refine ⟨assembled, _, made, Exchange.ofRecord?_toValue assembled.record, ?_⟩
  rw [ScreenRecord.exchange, payload, Ordered.tabulate, List.map_map]
  refine List.map_congr_left fun key _ => Prod.ext rfl ?_
  simp only [Function.comp_apply, Screen.origin]
  split <;> rfl

def tangled : Schema where
  screens := [
    ⟨"a_b", .text "", [.input .input (.text "c") .null (.bool false),
      .input .textarea (.text "d") .null (.bool false)]⟩,
    ⟨"a", .text "", [.static .heading .null (.text "b_c")]⟩,
    ⟨"a_b", .text "", [.static .caption .null .null,
      .choice .radio (.text "d") .null (.bool false) .null]⟩]

theorem tangled_handedOn :
    tangled.Spelled ∧ ¬ Succeeds tangled.validate ∧
      ∃ assembled exchange, tangled.assemble (2 : Nat) = .ok assembled ∧
        Exchange.ofRecord? assembled.record.toValue = some exchange ∧
        exchange.handedOn = [(("a_b_c_0" : Text), .text "$\x7bdata.a_b_c_0\x7d"),
          ("a_b_d_1", .text "$\x7bform.a_b_d_1\x7d")] := by
  have spelled : tangled.Spelled := by
    simp [tangled, Spelled, Component.Spelled, Value.AbsentOrText, Value.AbsentOrTexts]
  have refused : tangled.validate = reject (.repeatedScreen (.text "a_b")) := by decide +kernel
  refine ⟨spelled, by simp [refused, reject, Succeeds], ?_⟩
  rcases @payload_of_assemble tangled 2 _ spelled rfl with
    ⟨assembled, exchange, made, read, handedOn⟩
  exact ⟨assembled, exchange, made, read, handedOn.trans (by decide +kernel)⟩

end Schema

end ScreenFlow
