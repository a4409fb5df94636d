import ScreenFlow.Proofs.Assembly
import ScreenFlow.Proofs.Page
import ScreenFlow.Sample

namespace ScreenFlow

/-! The way through a form. A document lists where each screen leads, and the footer of each record
names the same screen again; followed from the first screen on, the names lead through all screens
in order and end at the last. -/

/-! ## Reading -/

/-- What a record tells about the way through the form. -/
structure Stop where
  id : Text
  terminal : Bool
  next : Option Text
  deriving DecidableEq, Repr

def Stop.ofRecord? (record : Value) : Option Stop := do
  let id ← (← record.member? "id").text?
  let terminal ← (← record.member? "terminal").flag?
  let next ← Page.next? (← Page.action? record)
  return { id, terminal, next }

def Value.texts? (value : Value) : Option (List Text) := do
  (← value.items?).mapM Value.text?

/-- Where each screen leads, as a document lists it. -/
def Value.routing? (document : Value) : Option (List (Text × List Text)) := do
  (← document.member? "routing_model").table? Value.texts?

def ScreenRecord.stop (record : ScreenRecord) : Stop :=
  { id := record.id, terminal := record.terminal, next := record.action.next? }

theorem Stop.ofRecord?_toValue (record : ScreenRecord) :
    ofRecord? record.toValue = some record.stop := by
  have terminal : record.toValue.member? "terminal" = some (.bool record.terminal) := by
    simp [ScreenRecord.toValue, Value.member?, Value.lookup?, field, Value.text?]
  simp only [ofRecord?, Page.id_record, terminal, Page.action?_record, Page.next?_action,
    Value.text?, Value.flag?, Option.bind_eq_bind, Option.bind_some]
  rfl

theorem routing?_toValue (document : FlowDocument) :
    document.toValue.routing? =
      some (document.routing.map fun edge => (edge.1, [edge.2])) := by
  have listed : document.toValue.member? "routing_model" =
      some (tableValue (fun next => .list [.text next]) document.routing) := by
    simp [FlowDocument.toValue, Value.member?, Value.lookup?, field, Value.text?]
  simp only [Value.routing?, listed, Option.bind_eq_bind, Option.bind_some]
  exact @Page.table?_tableValue _ _ (fun next => .list [.text next]) Value.texts?
    (fun next => [next]) (fun _ => rfl) document.routing

/-! ## Routing -/

theorem filterMap_range_next (elements : List α) :
    ((List.range elements.length).filterMap fun position =>
        elements[position]?.bind fun element =>
          elements[position + 1]?.map fun next => (element, next)) =
      elements.dropLast.zip elements.tail := by
  induction elements with
  | nil => rfl
  | cons first rest induction =>
      cases rest with
      | nil => rfl
      | cons second rest =>
          rw [List.length_cons, List.range_succ_eq_map, List.filterMap_cons, List.filterMap_map]
          exact congrArg ((first, second) :: ·) induction

namespace Schema

variable {schema : Schema} {position : Nat} {screen : Screen}

def steps (schema : Schema) : List (Screen × Screen) :=
  schema.screens.dropLast.zip schema.screens.tail

theorem steps_eq_some_iff {next : Screen} :
    schema.steps[position]? = some (screen, next) ↔
      schema.screens[position]? = some screen ∧ schema.screens[position + 1]? = some next := by
  rw [steps, List.getElem?_zip_eq_some, List.getElem?_dropLast, List.getElem?_tail]
  constructor
  · intro given
    rcases given with ⟨found, there⟩
    split at found
    · exact ⟨found, there⟩
    · cases found
  · intro given
    rcases given with ⟨found, there⟩
    have inside := (List.getElem?_eq_some_iff.mp there).1
    rw [if_pos (by omega)]
    exact ⟨found, there⟩

theorem distinct_steps (distinct : (schema.screens.map Screen.id).Nodup) :
    (Ordered.keys (schema.steps.map fun step => (step.1.id, step.2.id))).Nodup := by
  have firsts : schema.steps.map Prod.fst = schema.screens.dropLast := List.map_fst_zip (by simp)
  have keys : Ordered.keys (schema.steps.map fun step => (step.1.id, step.2.id)) =
      schema.screens.dropLast.map Screen.id := by
    rw [← firsts, Ordered.keys, List.map_map, List.map_map]
    rfl
  rw [keys]
  exact distinct.sublist ((List.dropLast_sublist _).map _)

theorem routing_eq (distinct : (schema.screens.map Screen.id).Nodup) :
    schema.routing = schema.steps.map fun step => (step.1.id, step.2.id) := by
  have edges : (List.range schema.screens.length).filterMap (fun position : Nat =>
      schema.edge? position) = schema.steps.map fun step => (step.1.id, step.2.id) := by
    rw [steps, ← filterMap_range_next, List.map_filterMap]
    apply List.filterMap_congr
    intro position member
    have found := List.getElem?_eq_getElem (List.mem_range.mp member)
    rw [edge?_eq found, found, Option.bind_some, Option.map_map]
    rfl
  rw [routing, edges]
  exact Ordered.ofEntries_of_nodup (distinct_steps distinct)

theorem distinct_routing (distinct : (schema.screens.map Screen.id).Nodup) :
    (Ordered.keys schema.routing).Nodup := by
  rw [routing_eq distinct]
  exact distinct_steps distinct

theorem edge_of_distinct (distinct : (schema.screens.map Screen.id).Nodup) {next : Screen}
    (found : schema.screens[position]? = some screen)
    (follows : schema.screens[position + 1]? = some next) :
    schema.routing[position]? = some (screen.id, next.id) := by
  rw [routing_eq distinct, List.getElem?_map, steps_eq_some_iff.mpr ⟨found, follows⟩]
  rfl

/-! ## Touring -/

/-- The way from a screen on, by the records of a document. Where the footer of a record leads to a
screen, the screen is looked up by its id. -/
inductive Tours (schema : Schema) (stops : List Stop) : Screen → List Screen → Prop where
  | complete {screen : Screen} {stop : Stop}
      (recorded : (stops.find? fun stop => stop.id == screen.id) = some stop)
      (terminal : stop.terminal = true) (last : stop.next = none) :
      Tours schema stops screen [screen]
  | navigate {screen next : Screen} {stop : Stop} {id : Text} {visited : List Screen}
      (recorded : (stops.find? fun stop => stop.id == screen.id) = some stop)
      (leads : stop.next = some id) (found : schema.screen? id = some next)
      (rest : Tours schema stops next visited) : Tours schema stops screen (screen :: visited)

theorem Tours.unique {stops : List Stop} {visited visited' : List Screen}
    (first : schema.Tours stops screen visited) (second : schema.Tours stops screen visited') :
    visited = visited' := by
  induction first generalizing visited' with
  | complete recorded terminal last =>
      cases second with
      | complete => rfl
      | navigate recorded' leads' => simp_all
  | navigate recorded leads found rest induction =>
      cases second with
      | complete recorded' terminal' last' => simp_all
      | navigate recorded' leads' found' rest' =>
          rw [recorded, Option.some.injEq] at recorded'
          subst recorded'
          rw [leads, Option.some.injEq] at leads'
          subst leads'
          rw [found, Option.some.injEq] at found'
          subst found'
          rw [induction rest']

/-- The way through a form as its document has it: the ids of the screens in order, of which only
the last is terminal; an edge for each step from a screen to the next, which are the edges of the
form itself; the footer of each other record leads along the edge of its screen, and that of the last
completes the form. From the first screen on, it leads to every screen once. -/
structure Routed (schema : Schema) (stops : List Stop) (routing : List (Text × List Text)) :
    Prop where
  ids : stops.map Stop.id = schema.screens.map Screen.id
  distinct : (schema.screens.map Screen.id).Nodup
  terminal : ∀ (position : Nat) (stop : Stop), stops[position]? = some stop →
    (stop.terminal = true ↔ position + 1 = schema.screens.length)
  length : routing.length + 1 = schema.screens.length
  edges : ∀ (position : Nat) (screen next : Screen), schema.screens[position]? = some screen →
    schema.screens[position + 1]? = some next → routing[position]? = some (screen.id, [next.id])
  model : routing = schema.routing.map fun edge => (edge.1, [edge.2])
  navigates : ∀ stop ∈ stops, stop.terminal = false →
    ∃ target rest, stop.next = some target ∧ Ordered.find? stop.id routing = some (target :: rest)
  completes : ∀ stop ∈ stops, stop.terminal = true → stop.next = none
  tour : ∃ first, schema.screens.head? = some first ∧ schema.Tours stops first schema.screens ∧
    ∀ visited, schema.Tours stops first visited → visited = schema.screens

def stopAt (schema : Schema) (position : Nat) (screen : Screen) : Stop :=
  { id := screen.id, terminal := decide (position + 1 = schema.screens.length)
    next := schema.screens[position + 1]?.map Screen.id }

variable {flow : CompiledFlow}

theorem stop_of_compile (compiled : schema.compile = .ok flow) (position : Nat) :
    (flow.document.screens.map ScreenRecord.stop)[position]? =
      schema.screens[position]?.map (schema.stopAt position) := by
  apply view_of_compile compiled
  intro position screen widgets
  simp only [ScreenRecord.stop, recordAt, leaving, stopAt]
  cases schema.screens[position + 1]? <;> rfl

theorem stops_ids (compiled : schema.compile = .ok flow) :
    (flow.document.screens.map ScreenRecord.stop).map Stop.id = schema.screens.map Screen.id := by
  apply List.ext_getElem?
  intro position
  rw [List.getElem?_map, stop_of_compile compiled, Option.map_map, List.getElem?_map]
  rfl

theorem stop_of_screen (compiled : schema.compile = .ok flow)
    (found : schema.screens[position]? = some screen) :
    ((flow.document.screens.map ScreenRecord.stop).find? fun stop => stop.id == screen.id) =
      some (schema.stopAt position screen) := by
  have there := stop_of_compile compiled position
  rw [found, Option.map_some] at there
  have distinct := distinct_of_compile compiled
  rw [← stops_ids compiled] at distinct
  exact Ordered.find?_of_distinct distinct (List.mem_of_getElem? there)

theorem tours_of_compile (compiled : schema.compile = .ok flow) {following : Nat}
    (whole : position + (following + 1) = schema.screens.length)
    (found : schema.screens[position]? = some screen) :
    schema.Tours (flow.document.screens.map ScreenRecord.stop) screen
      (schema.screens.drop position) := by
  -- The induction is on the screens still to come: the last one is terminal, and each other leads to
  -- the start of a shorter way.
  induction following generalizing position screen with
  | zero =>
      have last : schema.screens[position + 1]? = none := List.getElem?_eq_none (by omega)
      rw [drop_of_found found, List.drop_eq_nil_of_le (by omega)]
      exact .complete (stop_of_screen compiled found) (by simp [stopAt, whole])
        (by simp [stopAt, last])
  | succ following induction =>
      have next : schema.screens[position + 1]? = some schema.screens[position + 1] :=
        List.getElem?_eq_getElem (by omega)
      have resolved : schema.screen? schema.screens[position + 1].id =
          some schema.screens[position + 1] :=
        Ordered.find?_of_distinct (distinct_of_compile compiled) (List.mem_of_getElem? next)
      rw [drop_of_found found]
      exact .navigate (stop_of_screen compiled found) (by simp [stopAt, next]) resolved
        (induction (by omega) next)

/-- Every form that compiles has one way through all its screens. -/
theorem routed_of_compile (compiled : schema.compile = .ok flow) :
    ∃ stops routing, flow.document.toValue.records? Stop.ofRecord? = some stops ∧
      flow.document.toValue.routing? = some routing ∧ schema.Routed stops routing := by
  have distinct := distinct_of_compile compiled
  have filled := length_pos_of_compile compiled
  have listed := routing?_toValue flow.document
  rw [routing_of_compile compiled] at listed
  refine ⟨_, _, Page.records?_toValue Stop.ofRecord?_toValue flow.document, listed, ?_⟩
  refine
    { ids := stops_ids compiled
      distinct
      terminal := ?terminal
      length := ?length
      edges := ?edges
      model := rfl
      navigates := ?navigates
      completes := ?completes
      tour := ?tour }
  case terminal =>
    intro position stop found
    rw [stop_of_compile compiled, Option.map_eq_some_iff] at found
    rcases found with ⟨screen, -, rfl⟩
    simp [stopAt]
  case length =>
    have size : schema.routing.length = schema.screens.length - 1 := by
      simp [routing_eq distinct, steps]
    rw [List.length_map, size]
    omega
  case edges =>
    intro position screen next found follows
    rw [List.getElem?_map, edge_of_distinct distinct found follows]
    rfl
  case navigates =>
    intro stop member other
    rcases List.mem_iff_getElem?.mp member with ⟨position, found⟩
    rw [stop_of_compile compiled, Option.map_eq_some_iff] at found
    rcases found with ⟨screen, found, rfl⟩
    have inside := (List.getElem?_eq_some_iff.mp found).1
    have more : position + 1 < schema.screens.length := by
      simp only [stopAt, decide_eq_false_iff_not] at other
      omega
    have next := List.getElem?_eq_getElem more
    have edge := List.mem_map_of_mem (f := fun edge => (edge.1, [edge.2]))
      (List.mem_of_getElem? (edge_of_distinct distinct found next))
    refine ⟨schema.screens[position + 1].id, [], by simp [stopAt, next], ?_⟩
    refine Ordered.find?_eq_some_of_mem ?_ edge
    simpa [Ordered.keys, Function.comp_def] using distinct_routing distinct
  case completes =>
    intro stop member last
    rcases List.mem_iff_getElem?.mp member with ⟨position, found⟩
    rw [stop_of_compile compiled, Option.map_eq_some_iff] at found
    rcases found with ⟨screen, -, rfl⟩
    simp only [stopAt, decide_eq_true_eq] at last
    simp only [stopAt, Option.map_eq_none_iff]
    exact List.getElem?_eq_none (by omega)
  case tour =>
    have first := List.getElem?_eq_getElem filled
    have whole : 0 + (schema.screens.length - 1 + 1) = schema.screens.length := by omega
    have tours := tours_of_compile compiled whole first
    rw [List.drop_zero] at tours
    refine ⟨_, by rw [List.head?_eq_getElem?]; exact first, tours, fun visited other => ?_⟩
    exact other.unique tours

theorem signup_routed :
    ∃ flow, Sample.signup.compile = .ok flow ∧
      ∃ stops routing, flow.document.toValue.records? Stop.ofRecord? = some stops ∧
        flow.document.toValue.routing? = some routing ∧ Sample.signup.Routed stops routing := by
  have compiles : Outcome.Succeeds Sample.signup.compile := by decide +kernel
  rcases compiles with ⟨flow, compiled⟩
  exact ⟨flow, compiled, routed_of_compile compiled⟩

end Schema

end ScreenFlow
