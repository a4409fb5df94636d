import Mathlib.Tactic.SplitIfs
import ScreenFlow.Flow
import ScreenFlow.Proofs.Keys
import ScreenFlow.Proofs.Limits
import ScreenFlow.Proofs.Table

namespace ScreenFlow

/-! What compiling a form makes of each of its screens. The keys of a valid form all differ, so the
tables of a compiled screen are the lists of what is bound before it and on it. -/

/-! ## Bound components -/

namespace Screen

theorem mem_placed_iff {screen : Screen} {placed : Placed} :
    placed ∈ screen.placed ↔
      placed.screen = screen.id ∧ screen.components[placed.position]? = some placed.component := by
  rw [Screen.placed, List.mem_map]
  constructor
  · intro given
    rcases given with ⟨⟨position, component⟩, member, rfl⟩
    exact ⟨rfl, Sequence.mem_indexed_iff.mp member⟩
  · intro given
    rcases given with ⟨same, found⟩
    refine ⟨(placed.position, placed.component), Sequence.mem_indexed_iff.mpr found, ?_⟩
    rw [← same]

def keyed (screens : List Screen) : List (Text × Component) :=
  (screens.flatMap Screen.placed).filterMap Placed.entry?

@[simp] theorem keyed_nil : keyed [] = [] := rfl

@[simp] theorem keyed_append (before after : List Screen) :
    keyed (before ++ after) = keyed before ++ keyed after := by
  simp [keyed]

theorem keys_keyed (screens : List Screen) :
    Ordered.keys (keyed screens) = (screens.flatMap Screen.placed).filterMap Placed.key? := by
  rw [Ordered.keys, keyed, List.map_filterMap]
  congr 1
  funext placed
  simp [Placed.entry?, Function.comp_def]

theorem keys_keyed_map (screens : List Screen) (value : Text × Component → α) :
    Ordered.keys ((keyed screens).map fun entry => (entry.1, value entry)) =
      Ordered.keys (keyed screens) := by
  simp [Ordered.keys, Function.comp_def]

def parts (screen : Screen) : Except Fault (List Widget × List Diagnostic) :=
  Component.compileAll screen.id (Sequence.indexed screen.components)

theorem bound_eq_ok_iff {screens : List Screen} {entries : List (Text × Component)} :
    bound screens = .ok entries ↔
      (∀ placed ∈ screens.flatMap Screen.placed, placed.component.Nameable) ∧
        keyed screens = entries :=
  collect_eq_ok_iff

end Screen

namespace Schema

def placed (schema : Schema) : List Placed := schema.screens.flatMap Screen.placed

structure Keyed (schema : Schema) : Prop where
  nameable : ∀ placed ∈ schema.placed, placed.component.Nameable
  distinct : (Ordered.keys (Screen.keyed schema.screens)).Nodup

theorem checkNames_eq_ok_iff {schema : Schema} : schema.checkNames = .ok () ↔ schema.Keyed := by
  rw [checkNames, checkKeys_eq_ok_iff, ← Screen.keys_keyed]
  constructor
  · exact fun checked => ⟨checked.1, checked.2.1⟩
  · exact fun keyed => ⟨keyed.nameable, keyed.distinct, by simp⟩

def counts (schema : Schema) : List (Text × Nat) :=
  schema.screens.map fun screen => (screen.id, screen.components.length)

theorem sizes_eq (schema : Schema) : schema.sizes = Layout.ofCounts schema.counts := by
  simp [sizes, Layout.ofCounts, counts]

theorem validate_eq_ok_iff {schema : Schema} :
    schema.validate = .ok () ↔ Layout.Fits schema.counts ∧ schema.Keyed := by
  rw [validate, sizes_eq, Outcome.bind_eq_ok, checkNames_eq_ok_iff, ← Layout.check_eq_ok_iff]
  exact ⟨fun ⟨_, fits, keyed⟩ => ⟨fits, keyed⟩, fun ⟨fits, keyed⟩ => ⟨(), fits, keyed⟩⟩

theorem take_succ_of_found {schema : Schema} {position : Nat} {screen : Screen}
    (found : schema.screens[position]? = some screen) :
    schema.screens.take (position + 1) = schema.screens.take position ++ [screen] := by
  rw [List.take_add_one, found, Option.toList_some]

theorem drop_of_found {schema : Schema} {position : Nat} {screen : Screen}
    (found : schema.screens[position]? = some screen) :
    schema.screens.drop position = screen :: schema.screens.drop (position + 1) := by
  rcases List.getElem?_eq_some_iff.mp found with ⟨inside, rfl⟩
  exact List.drop_eq_getElem_cons inside

namespace Keyed

variable {schema : Schema} {position : Nat} {screen : Screen}

theorem nameable_of_mem (keyed : schema.Keyed) (among : screen ∈ schema.screens) :
    ∀ placed ∈ screen.placed, placed.component.Nameable := fun placed inside =>
  keyed.nameable placed (List.mem_flatMap.mpr ⟨screen, among, inside⟩)

theorem bound_take (keyed : schema.Keyed) (boundary : Nat) :
    Screen.bound (schema.screens.take boundary) =
      .ok (Screen.keyed (schema.screens.take boundary)) := by
  rw [Screen.bound_eq_ok_iff]
  refine ⟨fun placed member => ?_, rfl⟩
  rcases List.mem_flatMap.mp member with ⟨screen, among, inside⟩
  exact keyed.nameable_of_mem (List.mem_of_mem_take among) placed inside

theorem bound_screen (keyed : schema.Keyed) (found : schema.screens[position]? = some screen) :
    Screen.bound [screen] = .ok (Screen.keyed [screen]) := by
  rw [Screen.bound_eq_ok_iff, List.flatMap_singleton]
  exact ⟨keyed.nameable_of_mem (List.mem_of_getElem? found), rfl⟩

theorem distinct_take (keyed : schema.Keyed) (boundary : Nat) :
    (Ordered.keys (Screen.keyed (schema.screens.take boundary))).Nodup := by
  have whole := keyed.distinct
  rw [← List.take_append_drop boundary schema.screens, Screen.keyed_append,
    Ordered.keys_append] at whole
  exact (List.nodup_append.mp whole).1

theorem distinct_through (keyed : schema.Keyed)
    (found : schema.screens[position]? = some screen) :
    (Ordered.keys
      (Screen.keyed (schema.screens.take position) ++ Screen.keyed [screen])).Nodup := by
  have through := keyed.distinct_take (position + 1)
  rwa [take_succ_of_found found, Screen.keyed_append] at through

theorem distinct_screen (keyed : schema.Keyed)
    (found : schema.screens[position]? = some screen) :
    (Ordered.keys (Screen.keyed [screen])).Nodup := by
  have through := keyed.distinct_through found
  rw [Ordered.keys_append] at through
  exact (List.nodup_append.mp through).2.1

end Keyed

/-! ## Compiled screens -/

def declared (schema : Schema) (position : Nat) : List (Text × Placeholder) :=
  (Screen.keyed (schema.screens.take position)).map fun entry =>
    (entry.1, .ofComponent entry.2)

/-- What the screen at a position hands on: the data it received, then what its own form holds. -/
def handedOn (schema : Schema) (position : Nat) (screen : Screen) : List (Text × Reference) :=
  (Screen.keyed (schema.screens.take position)).map (fun entry => (entry.1, .data entry.1)) ++
    (Screen.keyed [screen]).map fun entry => (entry.1, .form entry.1)

def leaving (schema : Schema) (position : Nat) (screen : Screen) : Action :=
  match schema.screens[position + 1]? with
  | some next => .navigate next.id (schema.handedOn position screen)
  | none => .complete (schema.handedOn position screen)

def recordAt (schema : Schema) (position : Nat) (screen : Screen) (widgets : List Widget) :
    ScreenRecord :=
  { id := screen.id, title := screen.title, data := schema.declared position
    terminal := decide (position + 1 = schema.screens.length), widgets
    action := schema.leaving position screen }

def assembledAt (schema : Schema) (position : Nat) (screen : Screen)
    (part : List Widget × List Diagnostic) : AssembledScreen :=
  { record := schema.recordAt position screen part.1
    edge := schema.edge? position, diagnostics := part.2 }

variable {schema : Schema} {position : Nat} {screen : Screen}

@[simp] theorem payload_leaving :
    (schema.leaving position screen).payload = schema.handedOn position screen := by
  rw [leaving]
  cases schema.screens[position + 1]? <;> rfl

theorem contracts_eq (keyed : schema.Keyed) (position : Nat) :
    Screen.contracts (schema.screens.take position) = .ok (schema.declared position) := by
  have distinct := keyed.distinct_take position
  rw [← Screen.keys_keyed_map _ fun entry => Placeholder.ofComponent entry.2] at distinct
  simp only [Screen.contracts, keyed.bound_take position]
  exact congrArg Except.ok (Ordered.ofEntries_of_nodup distinct)

theorem formReferences_eq (keyed : schema.Keyed)
    (found : schema.screens[position]? = some screen) :
    screen.formReferences =
      .ok ((Screen.keyed [screen]).map fun entry => (entry.1, .form entry.1)) := by
  have distinct := keyed.distinct_screen found
  rw [← Screen.keys_keyed_map _ fun entry => Reference.form entry.1] at distinct
  simp only [Screen.formReferences, keyed.bound_screen found]
  exact congrArg Except.ok (Ordered.ofEntries_of_nodup distinct)

theorem dataReferences_eq (keyed : schema.Keyed) (position : Nat) :
    Screen.dataReferences (schema.screens.take position) =
      .ok ((Screen.keyed (schema.screens.take position)).map fun entry =>
        (entry.1, .data entry.1)) := by
  have distinct := keyed.distinct_take position
  rw [← Screen.keys_keyed_map _ fun entry => Reference.data entry.1] at distinct
  simp only [Screen.dataReferences, keyed.bound_take position]
  exact congrArg Except.ok (Ordered.ofEntries_of_nodup distinct)

/-- The references to the form take the place of the references to data for the fields of the
screen itself, which are the last ones. -/
theorem payload_eq (keyed : schema.Keyed) (found : schema.screens[position]? = some screen) :
    screen.payload (schema.screens.take (position + 1)) =
      .ok (schema.handedOn position screen) := by
  rw [Screen.payload, dataReferences_eq keyed, formReferences_eq keyed found,
    take_succ_of_found found, Screen.keyed_append, List.map_append]
  refine congrArg Except.ok (Ordered.update_back ?_ ?_)
  · rw [Ordered.keys_append, Screen.keys_keyed_map, Screen.keys_keyed_map, ← Ordered.keys_append]
    exact keyed.distinct_through found
  · rw [Screen.keys_keyed_map, Screen.keys_keyed_map]

theorem boundary_eq (found : schema.screens[position]? = some screen) :
    Sequence.upTo schema.screens
        (if (position : Int) = (schema.screens.length : Int) - 1 then
          (schema.screens.length : Int) else (position : Int) + 1) =
      schema.screens.take (position + 1) := by
  have inside : position < schema.screens.length := (List.getElem?_eq_some_iff.mp found).1
  split_ifs with last
  · have whole : schema.screens.length = position + 1 := by omega
    rw [Sequence.upTo_ofNat, whole]
  · exact Sequence.upTo_ofNat schema.screens (position + 1)

theorem edge?_eq (found : schema.screens[position]? = some screen) :
    schema.edge? position =
      schema.screens[position + 1]?.map fun next => (screen.id, next.id) := by
  have inside : position < schema.screens.length := (List.getElem?_eq_some_iff.mp found).1
  have next : Sequence.at? schema.screens ((position : Int) + 1) = schema.screens[position + 1]? :=
    Sequence.at?_ofNat schema.screens (position + 1)
  rw [edge?, next, Sequence.at?_ofNat, found]
  split_ifs with last
  · rw [List.getElem?_eq_none (by omega), Option.map_none]
  · cases schema.screens[position + 1]? <;> rfl

/-- Compiling one screen of a form with distinct keys succeeds exactly if its components can be
compiled, and adds nothing to them but what the form around them determines. -/
theorem assemble_eq (keyed : schema.Keyed) (found : schema.screens[position]? = some screen) :
    schema.assemble position = screen.parts.map (schema.assembledAt position screen) := by
  have inside : position < schema.screens.length := (List.getElem?_eq_some_iff.mp found).1
  have last : ((position : Int) = (schema.screens.length : Int) - 1) ↔
      position + 1 = schema.screens.length := by omega
  have data : Sequence.upTo schema.screens (position : Int) = schema.screens.take position :=
    Sequence.upTo_ofNat schema.screens position
  rw [assemble, Screen.parts, Sequence.at?_ofNat, found]
  cases compiled : Component.compileAll screen.id (Sequence.indexed screen.components) with
  | error fault => simp [orFault, compiled, bind, Except.bind, Except.map]
  | ok parts =>
      simp only [orFault, compiled, boundary_eq found, payload_eq keyed found, data,
        contracts_eq keyed, bind, Except.bind, pure, Except.pure, Except.map, assembledAt,
        recordAt, leaving, edge?_eq found]
      -- The boundary is settled above in terms of the integer position, so this comes last.
      simp only [last]
      cases schema.screens[position + 1]? <;> rfl

/-! ## Compiled forms -/

def flowWith (schema : Schema) (parts : List (List Widget × List Diagnostic)) : CompiledFlow :=
  { document :=
      { routing := schema.routing
        screens := (schema.screens.zip parts).zipIdx.map fun ((screen, part), position) =>
          schema.recordAt position screen part.1 }
    diagnostics := parts.flatMap Prod.snd }

theorem assembleAll_eq (keyed : schema.Keyed) :
    ((List.range schema.screens.length).mapM fun position : Nat => schema.assemble position) =
      (schema.screens.mapM Screen.parts).map fun parts =>
        (schema.screens.zip parts).zipIdx.map fun ((screen, part), position) =>
          schema.assembledAt position screen part := by
  rw [List.range_eq_range']
  apply Outcome.mapM_range_eq 0 schema.screens
  intro position screen found
  rw [Nat.zero_add]
  exact assemble_eq keyed found

theorem compile_eq (fits : Layout.Fits schema.counts) (keyed : schema.Keyed) :
    schema.compile = (schema.screens.mapM Screen.parts).map schema.flowWith := by
  have valid : schema.validate = .ok () := validate_eq_ok_iff.mpr ⟨fits, keyed⟩
  simp only [compile, valid, assembleAll_eq keyed, bind, Except.bind]
  cases compiled : schema.screens.mapM Screen.parts with
  | error fault => rfl
  | ok parts =>
      have lengths : schema.screens.length = parts.length :=
        (Outcome.mapM_eq_ok_iff.mp compiled).length_eq
      have notes : ((schema.screens.zip parts).zipIdx.map fun ((screen, part), position) =>
          schema.assembledAt position screen part).flatMap (·.diagnostics) =
          parts.flatMap Prod.snd := by
        have second : ((schema.screens.zip parts).zipIdx.map Prod.fst).map Prod.snd = parts := by
          rw [List.zipIdx_map_fst, List.map_snd_zip (Nat.le_of_eq lengths.symm)]
        conv_rhs => rw [← second]
        simp only [List.flatMap_map]
        rfl
      have edges : ((schema.screens.zip parts).zipIdx.map fun ((screen, part), position) =>
          schema.assembledAt position screen part).filterMap (·.edge) =
          (List.range schema.screens.length).filterMap fun position : Nat =>
            schema.edge? position := by
        have places : (schema.screens.zip parts).zipIdx.map Prod.snd =
            List.range schema.screens.length := by
          rw [List.zipIdx_map_snd, List.length_zip, ← lengths, Nat.min_self, List.range_eq_range']
        rw [← places]
        simp only [List.filterMap_map]
        rfl
      simp only [Except.map, pure, Except.pure, notes, edges, List.map_map]
      rfl

theorem compile_of_names_error (fits : Layout.Fits schema.counts) {fault : Fault}
    (names : schema.checkNames = .error fault) : schema.compile = .error fault := by
  have checked : Layout.check schema.sizes = .ok () := by
    rw [sizes_eq, Layout.check_eq_ok_iff]
    exact fits
  simp [compile, validate, checked, names, bind, Except.bind]

theorem compile_eq_ok_iff {flow : CompiledFlow} :
    schema.compile = .ok flow ↔
      Layout.Fits schema.counts ∧ schema.Keyed ∧
        ∃ parts, schema.screens.mapM Screen.parts = .ok parts ∧ flow = schema.flowWith parts := by
  constructor
  · intro compiled
    have valid := compiled
    rw [compile, Outcome.bind_eq_ok] at valid
    rcases validate_eq_ok_iff.mp valid.choose_spec.1 with ⟨fits, keyed⟩
    rw [compile_eq fits keyed, Outcome.map_eq_ok] at compiled
    rcases compiled with ⟨parts, found, rfl⟩
    exact ⟨fits, keyed, parts, found, rfl⟩
  · intro given
    rcases given with ⟨fits, keyed, parts, found, rfl⟩
    rw [compile_eq fits keyed, found]
    rfl

theorem compile_eq_error_iff_of_parts
    (parts : Outcome.Succeeds (schema.screens.mapM Screen.parts)) {fault : Fault} :
    schema.compile = .error fault ↔ schema.validate = .error fault := by
  cases valid : schema.validate with
  | error other => simp [compile, valid, Outcome.error_bind]
  | ok _ =>
      rcases validate_eq_ok_iff.mp valid with ⟨fits, keyed⟩
      rcases parts with ⟨parts, made⟩
      simp [compile_eq fits keyed, made, Except.map]

theorem distinct_of_compile {flow : CompiledFlow} (compiled : schema.compile = .ok flow) :
    (schema.screens.map Screen.id).Nodup := by
  simpa [counts, Function.comp_def] using (compile_eq_ok_iff.mp compiled).1.distinct

theorem length_pos_of_compile {flow : CompiledFlow} (compiled : schema.compile = .ok flow) :
    0 < schema.screens.length := by
  rw [List.length_pos_iff]
  intro empty
  exact (compile_eq_ok_iff.mp compiled).1.nonempty (by simp [counts, empty])

theorem length_of_compile {flow : CompiledFlow} (compiled : schema.compile = .ok flow) :
    flow.document.screens.length = schema.screens.length := by
  rcases compile_eq_ok_iff.mp compiled with ⟨-, -, parts, found, rfl⟩
  have lengths := (Outcome.mapM_eq_ok_iff.mp found).length_eq
  simp [flowWith, ← lengths]

theorem routing_of_compile {flow : CompiledFlow} (compiled : schema.compile = .ok flow) :
    flow.document.routing = schema.routing := by
  rcases compile_eq_ok_iff.mp compiled with ⟨-, -, parts, -, rfl⟩
  rfl

theorem record_of_compile {flow : CompiledFlow} (compiled : schema.compile = .ok flow)
    (found : schema.screens[position]? = some screen) :
    ∃ part, screen.parts = .ok part ∧
      flow.document.screens[position]? = some (schema.recordAt position screen part.1) := by
  rcases compile_eq_ok_iff.mp compiled with ⟨-, -, parts, stepped, rfl⟩
  rcases Outcome.getElem?_of_mapM stepped found with ⟨part, there, made⟩
  have paired : (schema.screens.zip parts)[position]? = some (screen, part) :=
    List.getElem?_zip_eq_some.mpr ⟨found, there⟩
  exact ⟨part, made, by simp [flowWith, paired]⟩

theorem view_of_compile {flow : CompiledFlow} (compiled : schema.compile = .ok flow)
    {view : ScreenRecord → α} {look : Nat → Screen → α}
    (same : ∀ position screen widgets, view (schema.recordAt position screen widgets) =
      look position screen) (position : Nat) :
    (flow.document.screens.map view)[position]? = schema.screens[position]?.map (look position) := by
  rw [List.getElem?_map]
  cases found : schema.screens[position]? with
  | none =>
      rw [List.getElem?_eq_none_iff] at found
      rw [List.getElem?_eq_none (by rwa [length_of_compile compiled])]
      rfl
  | some screen =>
      rcases record_of_compile compiled found with ⟨part, -, there⟩
      rw [there, Option.map_some, same, Option.map_some]

end Schema

end ScreenFlow
