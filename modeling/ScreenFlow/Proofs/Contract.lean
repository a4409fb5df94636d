import ScreenFlow.Proofs.Assembly
import ScreenFlow.Proofs.Page
import ScreenFlow.Sample

namespace ScreenFlow

/-! What the records of a document promise each other. Each declares exactly what the one before it
hands on; what is declared grows from record to record, and the kind of a datum is settled by the
component that it comes from. -/

/-- What the record of a screen declares and what it hands on, with the values that stand for the
data. -/
structure Exchange where
  declared : List (Text × Value)
  handedOn : List (Text × Value)
  deriving DecidableEq, Repr

namespace Exchange

def ofRecord? (record : Value) : Option Exchange := do
  let declared ← (← record.member? "data").table? some
  let handedOn ← (← (← Page.action? record).member? "payload").table? some
  return { declared, handedOn }

end Exchange

/-- The exchange that the document of a record describes. -/
def ScreenRecord.exchange (record : ScreenRecord) : Exchange :=
  { declared := record.data.map fun entry => (entry.1, entry.2.toValue)
    handedOn := record.action.payload.map fun entry => (entry.1, entry.2.toValue) }

theorem Exchange.ofRecord?_toValue (record : ScreenRecord) :
    ofRecord? record.toValue = some record.exchange := by
  have declared : (tableValue Placeholder.toValue record.data).table? some =
      some (record.data.map fun entry => (entry.1, entry.2.toValue)) :=
    Page.table?_tableValue (fun _ => rfl) record.data
  have handedOn : (tableValue Reference.toValue record.action.payload).table? some =
      some (record.action.payload.map fun entry => (entry.1, entry.2.toValue)) :=
    Page.table?_tableValue (fun _ => rfl) record.action.payload
  simp only [ofRecord?, Page.data_record, Page.action?_record, Page.payload_action, declared,
    handedOn, Option.bind_eq_bind, Option.bind_some]
  rfl

/-! ## Owners -/

def Component.IsCheckbox (component : Component) : Prop :=
  ∃ name label required options, component = .choice .checkbox name label required options

theorem Placeholder.ofComponent_eq_texts_iff {component : Component} :
    Placeholder.ofComponent component = .texts ↔ component.IsCheckbox := by
  cases component with
  | choice type name label required options =>
      cases type <;> simp [ofComponent, Component.IsCheckbox]
  | _ => simp [ofComponent, Component.IsCheckbox]

theorem Placeholder.toValue_injective {first second : Placeholder}
    (equal : first.toValue = second.toValue) : first = second := by
  cases first <;> cases second <;> first | rfl | exact absurd equal (by decide)

theorem Screen.mem_keyed_iff {screens : List Screen} {key : Text} {component : Component} :
    (key, component) ∈ keyed screens ↔
      ∃ placed ∈ screens.flatMap Screen.placed,
        placed.component = component ∧ placed.key? = some key := by
  rw [keyed, List.mem_filterMap]
  simp [Placed.entry?, and_comm]

namespace Schema

def Declares (schema : Schema) (position : Nat) (key : Text) (component : Component) : Prop :=
  ∃ screen placed, schema.screens[position]? = some screen ∧ placed ∈ screen.placed ∧
    placed.component = component ∧ placed.boundKey? = .ok (some key)

variable {schema : Schema} {position owner owner' : Nat} {screen : Screen} {key : Text}
  {component component' : Component}

theorem declares_iff (keyed : schema.Keyed) (found : schema.screens[position]? = some screen) :
    schema.Declares position key component ↔ (key, component) ∈ Screen.keyed [screen] := by
  rw [Screen.mem_keyed_iff, List.flatMap_singleton]
  constructor
  · intro declares
    rcases declares with ⟨other, placed, there, member, same, bound⟩
    rw [found, Option.some.injEq] at there
    subst there
    exact ⟨placed, member, same, (Placed.boundKey?_eq_ok_iff.mp bound).2⟩
  · intro given
    rcases given with ⟨placed, member, same, bound⟩
    have nameable := keyed.nameable_of_mem (List.mem_of_getElem? found) placed member
    exact ⟨screen, placed, found, member, same, Placed.boundKey?_eq_ok_iff.mpr ⟨nameable, bound⟩⟩

theorem mem_keyed_take_iff (keyed : schema.Keyed) :
    (key, component) ∈ Screen.keyed (schema.screens.take position) ↔
      ∃ owner < position, schema.Declares owner key component := by
  induction position with
  | zero => simp
  | succ position induction =>
      cases found : schema.screens[position]? with
      | none =>
          have absent : ¬ schema.Declares position key component := by
            intro declares
            rcases declares with ⟨screen, -, there, -⟩
            simp [found] at there
          rw [List.take_add_one, found, Option.toList_none, List.append_nil, induction]
          constructor
          · intro given
            rcases given with ⟨owner, before, declares⟩
            exact ⟨owner, by omega, declares⟩
          · intro given
            rcases given with ⟨owner, before, declares⟩
            have other : owner ≠ position := fun same => absent (same ▸ declares)
            exact ⟨owner, by omega, declares⟩
      | some screen =>
          rw [take_succ_of_found found, Screen.keyed_append, List.mem_append, induction,
            ← declares_iff keyed found]
          simp only [Nat.lt_succ_iff_lt_or_eq, or_and_right, exists_or, exists_eq_left]

theorem Declares.unique (keyed : schema.Keyed) (first : schema.Declares owner key component)
    (second : schema.Declares owner' key component') :
    owner = owner' ∧ component = component' := by
  have apart {early late : Nat} {held kept : Component} (earlier : schema.Declares early key held)
      (later : schema.Declares late key kept) : ¬ early < late := by
    intro before
    rcases id later with ⟨screen, -, found, -⟩
    have distinct := keyed.distinct_through found
    rw [Ordered.keys_append, List.nodup_append] at distinct
    have left := Ordered.mem_keys_of_mem ((mem_keyed_take_iff keyed).mpr ⟨early, before, earlier⟩)
    have right := Ordered.mem_keys_of_mem ((declares_iff keyed found).mp later)
    exact distinct.2.2 _ left _ right rfl
  have same : owner = owner' := by
    have notBefore := apart first second
    have notAfter := apart second first
    omega
  subst same
  rcases id first with ⟨screen, -, found, -⟩
  have distinct := keyed.distinct_screen found
  have left := Ordered.find?_eq_some_of_mem distinct ((declares_iff keyed found).mp first)
  have right := Ordered.find?_eq_some_of_mem distinct ((declares_iff keyed found).mp second)
  rw [left, Option.some.injEq] at right
  exact ⟨rfl, right⟩

/-! ## Records -/

def exchangeAt (schema : Schema) (position : Nat) (screen : Screen) : Exchange :=
  { declared := (schema.declared position).map fun entry => (entry.1, entry.2.toValue)
    handedOn := (schema.handedOn position screen).map fun entry => (entry.1, entry.2.toValue) }

theorem keys_declared (schema : Schema) (position : Nat) (screen : Screen) :
    Ordered.keys (schema.exchangeAt position screen).declared =
      Ordered.keys (Screen.keyed (schema.screens.take position)) := by
  simp [exchangeAt, declared, Ordered.keys, Function.comp_def]

theorem keys_handedOn (found : schema.screens[position]? = some screen) :
    Ordered.keys (schema.exchangeAt position screen).handedOn =
      Ordered.keys (Screen.keyed (schema.screens.take (position + 1))) := by
  simp [exchangeAt, handedOn, Ordered.keys, take_succ_of_found found, Function.comp_def]

theorem declared_grows (found : schema.screens[position]? = some screen) :
    schema.declared position <+: schema.declared (position + 1) := by
  rw [declared, declared, take_succ_of_found found, Screen.keyed_append, List.map_append]
  exact List.prefix_append _ _

theorem mem_declared_iff (keyed : schema.Keyed) {value : Value} :
    (key, value) ∈ (schema.exchangeAt position screen).declared ↔
      ∃ owner < position, ∃ component, schema.Declares owner key component ∧
        value = (Placeholder.ofComponent component).toValue := by
  simp only [exchangeAt, declared, List.map_map, List.mem_map, Function.comp_apply, Prod.mk.injEq]
  constructor
  · intro given
    rcases given with ⟨⟨other, component⟩, member, rfl, rfl⟩
    rcases (mem_keyed_take_iff keyed).mp member with ⟨owner, before, declares⟩
    exact ⟨owner, before, component, declares, rfl⟩
  · intro given
    rcases given with ⟨owner, before, component, declares, rfl⟩
    exact ⟨(key, component), (mem_keyed_take_iff keyed).mpr ⟨owner, before, declares⟩, rfl, rfl⟩

/-- The records of a form keep their promises. Each declares the names that the one before it hands
on, in the same order, and everything that the one before it declares; nothing is declared at first.
A name is declared from the screen after its component on, and stands for a list of texts if the
component is a checkbox group, otherwise for a text. -/
structure Contracts (schema : Schema) (exchanges : List Exchange) : Prop where
  length : exchanges.length = schema.screens.length
  agree : ∀ (position : Nat) (sender receiver : Exchange), exchanges[position]? = some sender →
    exchanges[position + 1]? = some receiver →
      Ordered.keys sender.handedOn = Ordered.keys receiver.declared
  grow : ∀ (position : Nat) (earlier later : Exchange), exchanges[position]? = some earlier →
    exchanges[position + 1]? = some later → earlier.declared <+: later.declared
  start : ∀ first : Exchange, exchanges[0]? = some first → first.declared = []
  owned : ∀ (position : Nat) (exchange : Exchange), exchanges[position]? = some exchange →
    ∀ key ∈ Ordered.keys exchange.declared, ∃ owner component, schema.Declares owner key component
  declared : ∀ (position : Nat) (exchange : Exchange), exchanges[position]? = some exchange →
    ∀ owner key component, schema.Declares owner key component →
      (key ∈ Ordered.keys exchange.declared ↔ owner < position)
  typed : ∀ (position : Nat) (exchange : Exchange), exchanges[position]? = some exchange →
    ∀ owner key component value, schema.Declares owner key component →
      (key, value) ∈ exchange.declared →
        (value = Placeholder.texts.toValue ↔ component.IsCheckbox) ∧
          (value = Placeholder.text.toValue ↔ ¬ component.IsCheckbox)

variable {flow : CompiledFlow}

theorem exchange_of_compile (compiled : schema.compile = .ok flow) {exchange : Exchange}
    (found : (flow.document.screens.map ScreenRecord.exchange)[position]? = some exchange) :
    ∃ screen, schema.screens[position]? = some screen ∧
      exchange = schema.exchangeAt position screen := by
  have same (position : Nat) (screen : Screen) (widgets : List Widget) :
      (schema.recordAt position screen widgets).exchange = schema.exchangeAt position screen := by
    simp [ScreenRecord.exchange, exchangeAt, recordAt]
  rw [view_of_compile compiled same, Option.map_eq_some_iff] at found
  rcases found with ⟨screen, source, rfl⟩
  exact ⟨screen, source, rfl⟩

/-- The records of every form that compiles keep their promises. -/
theorem contracts_of_compile (compiled : schema.compile = .ok flow) :
    ∃ exchanges, flow.document.toValue.records? Exchange.ofRecord? = some exchanges ∧
      schema.Contracts exchanges := by
  have keyed := (compile_eq_ok_iff.mp compiled).2.1
  refine ⟨_, Page.records?_toValue Exchange.ofRecord?_toValue flow.document, ?_⟩
  refine
    { length := ?length
      agree := ?agree
      grow := ?grow
      start := ?start
      owned := ?owned
      declared := ?declared
      typed := ?typed }
  case length => rw [List.length_map, length_of_compile compiled]
  case agree =>
    intro position sender receiver inSender inReceiver
    rcases exchange_of_compile compiled inSender with ⟨screen, found, rfl⟩
    rcases exchange_of_compile compiled inReceiver with ⟨next, -, rfl⟩
    rw [keys_handedOn found, keys_declared]
  case grow =>
    intro position earlier later inEarlier inLater
    rcases exchange_of_compile compiled inEarlier with ⟨screen, found, rfl⟩
    rcases exchange_of_compile compiled inLater with ⟨next, -, rfl⟩
    exact (declared_grows found).map _
  case start =>
    intro first inFirst
    rcases exchange_of_compile compiled inFirst with ⟨screen, -, rfl⟩
    rfl
  case owned =>
    intro position exchange inside key member
    rcases exchange_of_compile compiled inside with ⟨screen, -, rfl⟩
    rcases List.mem_map.mp member with ⟨⟨_, value⟩, entry, rfl⟩
    rcases (mem_declared_iff keyed).mp entry with ⟨owner, -, component, declares, -⟩
    exact ⟨owner, component, declares⟩
  case declared =>
    intro position exchange inside owner key component declares
    rcases exchange_of_compile compiled inside with ⟨screen, -, rfl⟩
    constructor
    · intro member
      rcases List.mem_map.mp member with ⟨⟨_, value⟩, entry, rfl⟩
      rcases (mem_declared_iff keyed).mp entry with ⟨other, before, component', declares', -⟩
      rwa [(declares.unique keyed declares').1]
    · intro before
      exact Ordered.mem_keys_of_mem
        ((mem_declared_iff keyed).mpr ⟨owner, before, component, declares, rfl⟩)
  case typed =>
    intro position exchange inside owner key component value declares member
    rcases exchange_of_compile compiled inside with ⟨screen, -, rfl⟩
    rcases (mem_declared_iff keyed).mp member with ⟨other, -, component', declares', rfl⟩
    rcases declares.unique keyed declares' with ⟨-, rfl⟩
    rw [← Placeholder.ofComponent_eq_texts_iff]
    cases Placeholder.ofComponent component <;> decide

theorem signup_contracts :
    ∃ flow, Sample.signup.compile = .ok flow ∧
      ∃ exchanges, flow.document.toValue.records? Exchange.ofRecord? = some exchanges ∧
        Sample.signup.Contracts exchanges := by
  have compiles : Outcome.Succeeds Sample.signup.compile := by decide +kernel
  rcases compiles with ⟨flow, compiled⟩
  exact ⟨flow, compiled, contracts_of_compile compiled⟩

end Schema

end ScreenFlow
