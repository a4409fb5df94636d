import ScreenFlow.Proofs.Assembly
import ScreenFlow.Proofs.Page
import ScreenFlow.Sample

namespace ScreenFlow

/-! Runs of a compiled form. A renderer shows the first record without any data. When a screen is
left, the expressions of its record are evaluated, and what they give is handed to the record that
comes next, or is the outcome of the form. -/

/-- A record of a document that is shown, with the data handed to it. -/
structure Visit (α : Type) where
  position : Nat
  incoming : List (Text × α)
  deriving DecidableEq, Repr

inductive Turn (α : Type) where
  | visit (next : Visit α)
  | complete (final : List (Text × α))
  deriving DecidableEq, Repr

variable {α : Type}

namespace Reference

def value? (submitted : Text → Option α) (incoming : List (Text × α)) :
    Reference → Option α
  | .form key => submitted key
  | .data key => Ordered.find? key incoming

end Reference

namespace Page

def evaluate? (submitted : Text → Option α) (incoming : List (Text × α))
    (expression : Text) : Option α :=
  (Reference.ofText? expression).bind (Reference.value? submitted incoming)

def handOn? (page : Page) (submitted : Text → Option α) (incoming : List (Text × α)) :
    Option (List (Text × α)) :=
  page.payload.mapM fun entry => (evaluate? submitted incoming entry.2).map (Prod.mk entry.1)

end Page

def turn? (pages : List Page) (submission : Nat → Text → Option α) (visit : Visit α) :
    Option (Turn α) := do
  let page ← pages[visit.position]?
  let handed ← page.handOn? (submission visit.position) visit.incoming
  match page.next with
  | none => return .complete handed
  | some id => return .visit ⟨← pages.findIdx? fun page => page.id == id, handed⟩

/-- The visits from one on until the form is complete, and the outcome. -/
inductive Plays (pages : List Page) (submission : Nat → Text → Option α) :
    Visit α → List (Visit α) → List (Text × α) → Prop where
  | complete {visit : Visit α} {final : List (Text × α)}
      (turn : turn? pages submission visit = some (.complete final)) :
      Plays pages submission visit [visit] final
  | navigate {visit next : Visit α} {visits : List (Visit α)} {final : List (Text × α)}
      (turn : turn? pages submission visit = some (.visit next))
      (rest : Plays pages submission next visits final) :
      Plays pages submission visit (visit :: visits) final

theorem Plays.unique {pages : List Page} {submission : Nat → Text → Option α}
    {visit : Visit α} {visits visits' : List (Visit α)} {final final' : List (Text × α)}
    (first : Plays pages submission visit visits final)
    (second : Plays pages submission visit visits' final') :
    visits = visits' ∧ final = final' := by
  induction first generalizing visits' final' with
  | complete turn =>
      cases second with
      | complete turn' => simp_all
      | navigate turn' rest' => simp_all
  | navigate turn rest induction =>
      cases second with
      | complete turn' => simp_all
      | navigate turn' rest' =>
          rw [turn, Option.some.injEq, Turn.visit.injEq] at turn'
          subst turn'
          rcases induction rest' with ⟨rfl, rfl⟩
          exact ⟨rfl, rfl⟩

/-! ## What has been collected -/

namespace Schema

/-- The screens of a form submit a value for each of their fields. -/
def Submits (schema : Schema) (submission : Nat → Text → Option α) : Prop :=
  ∀ position screen references, schema.screens[position]? = some screen →
    screen.formReferences = .ok references →
      ∀ key ∈ Ordered.keys references, (submission position key).isSome

def submitted (submission : Nat → Text → Option α) (position : Nat) (screen : Screen) :
    List (Text × α) :=
  (Screen.keyed [screen]).filterMap fun entry => (submission position entry.1).map (Prod.mk entry.1)

def gathered (schema : Schema) (submission : Nat → Text → Option α) (boundary : Nat) :
    List (Text × α) :=
  (schema.screens.take boundary).zipIdx.flatMap fun (screen, position) =>
    submitted submission position screen

variable {schema : Schema} {submission : Nat → Text → Option α} {position : Nat}
  {screen : Screen}

theorem Submits.isSome (submits : schema.Submits submission) (keyed : schema.Keyed)
    (found : schema.screens[position]? = some screen) {entry : Text × Component}
    (member : entry ∈ Screen.keyed [screen]) : (submission position entry.1).isSome := by
  apply submits position screen _ found (formReferences_eq keyed found) _
  rw [Screen.keys_keyed_map]
  exact Ordered.mem_keys_of_mem member

theorem gathered_zero : schema.gathered submission 0 = [] := by
  simp [gathered]

theorem gathered_succ (found : schema.screens[position]? = some screen) :
    schema.gathered submission (position + 1) =
      schema.gathered submission position ++ submitted submission position screen := by
  have inside : position < schema.screens.length := (List.getElem?_eq_some_iff.mp found).1
  have before : (schema.screens.take position).length = position := by
    rw [List.length_take]
    omega
  rw [gathered, take_succ_of_found found, List.zipIdx_append, List.flatMap_append, before]
  simp [gathered]

theorem keys_submitted (submits : schema.Submits submission) (keyed : schema.Keyed)
    (found : schema.screens[position]? = some screen) :
    Ordered.keys (submitted submission position screen) =
      Ordered.keys (Screen.keyed [screen]) := by
  rw [Ordered.keys, Ordered.keys, submitted, List.map_filterMap, ← List.filterMap_eq_map]
  apply List.filterMap_congr
  intro entry member
  rcases Option.isSome_iff_exists.mp (submits.isSome keyed found member) with ⟨value, given⟩
  simp [given]

theorem keys_gathered (submits : schema.Submits submission) (keyed : schema.Keyed)
    (inside : position ≤ schema.screens.length) :
    Ordered.keys (schema.gathered submission position) =
      Ordered.keys (Screen.keyed (schema.screens.take position)) := by
  induction position with
  | zero => simp [gathered]
  | succ position induction =>
      have found : schema.screens[position]? = some schema.screens[position] :=
        List.getElem?_eq_getElem inside
      rw [gathered_succ found, take_succ_of_found found, Screen.keyed_append,
        Ordered.keys_append, Ordered.keys_append, induction (by omega),
        keys_submitted submits keyed found]

theorem distinct_gathered (submits : schema.Submits submission) (keyed : schema.Keyed)
    (inside : position ≤ schema.screens.length) :
    (Ordered.keys (schema.gathered submission position)).Nodup := by
  rw [keys_gathered submits keyed inside]
  exact keyed.distinct_take position

theorem mem_gathered_of_found (found : schema.screens[position]? = some screen)
    {entry : Text × α} (member : entry ∈ submitted submission position screen) :
    entry ∈ schema.gathered submission schema.screens.length := by
  refine List.mem_flatMap.mpr ⟨(screen, position), ?_, member⟩
  rw [List.take_length, List.mk_mem_zipIdx_iff_getElem?]
  exact found

theorem find?_gathered (submits : schema.Submits submission) (keyed : schema.Keyed)
    (found : schema.screens[position]? = some screen) {entry : Text × Component}
    (member : entry ∈ Screen.keyed [screen]) :
    Ordered.find? entry.1 (schema.gathered submission schema.screens.length) =
      submission position entry.1 := by
  rcases Option.isSome_iff_exists.mp (submits.isSome keyed found member) with ⟨value, given⟩
  have own : (entry.1, value) ∈ submitted submission position screen :=
    List.mem_filterMap.mpr ⟨entry, member, by rw [given, Option.map_some]⟩
  rw [given]
  exact Ordered.find?_eq_some_of_mem (distinct_gathered submits keyed (Nat.le_refl _))
    (mem_gathered_of_found found own)

/-! ## Steps -/

theorem received_of_keys {table : List (Text × α)} (submitted : Text → Option α)
    (distinct : (Ordered.keys table).Nodup) {entries : List (Text × Component)}
    (same : Ordered.keys table = Ordered.keys entries) :
    (entries.mapM fun entry =>
        ((Reference.data entry.1).value? submitted table).map (Prod.mk entry.1)) = some table := by
  have looked := Ordered.mapM_find?_keys distinct
  rw [same, Ordered.keys, List.mapM_map] at looked
  exact looked

theorem handOn?_gathered (submits : schema.Submits submission) (keyed : schema.Keyed)
    (found : schema.screens[position]? = some screen) (widgets : List Widget) :
    (schema.recordAt position screen widgets).page.handOn? (submission position)
        (schema.gathered submission position) =
      some (schema.gathered submission (position + 1)) := by
  have inside : position < schema.screens.length := (List.getElem?_eq_some_iff.mp found).1
  have received := received_of_keys (submission position)
    (distinct_gathered submits keyed (Nat.le_of_lt inside))
    (keys_gathered submits keyed (Nat.le_of_lt inside))
  have own : ((Screen.keyed [screen]).mapM fun entry =>
      (submission position entry.1).map (Prod.mk entry.1)) =
      some (submitted submission position screen) := by
    apply Ordered.mapM_eq_some_filterMap
    intro entry member
    rw [Option.isSome_map]
    exact submits.isSome keyed found member
  simp only [Page.handOn?, ScreenRecord.page, recordAt, payload_leaving, handedOn, List.mapM_map,
    List.mapM_append, Function.comp_def, Page.evaluate?, Reference.ofText?_render,
    Option.bind_some]
  rw [received, gathered_succ found]
  simp only [Reference.value?, own]
  rfl

/-! ## Runs -/

variable {flow : CompiledFlow}

theorem page_of_compile (compiled : schema.compile = .ok flow)
    (found : schema.screens[position]? = some screen) :
    ∃ widgets, (flow.document.screens.map ScreenRecord.page)[position]? =
      some (schema.recordAt position screen widgets).page := by
  rcases record_of_compile compiled found with ⟨part, -, record⟩
  exact ⟨part.1, by rw [List.getElem?_map, record, Option.map_some]⟩

theorem ids_of_compile (compiled : schema.compile = .ok flow) :
    (flow.document.screens.map ScreenRecord.page).map Page.id = schema.screens.map Screen.id := by
  have lengths := length_of_compile compiled
  apply List.ext_getElem (by simpa using lengths)
  intro position inPages inScreens
  have inside : position < schema.screens.length := by simpa using inScreens
  rcases page_of_compile compiled (List.getElem?_eq_getElem inside) with ⟨widgets, page⟩
  rw [List.getElem_map, List.getElem_map Screen.id, (List.getElem?_eq_some_iff.mp page).2]
  rfl

theorem findIdx?_of_compile (compiled : schema.compile = .ok flow)
    (found : schema.screens[position]? = some screen) :
    ((flow.document.screens.map ScreenRecord.page).findIdx? fun page => page.id == screen.id) =
      some position := by
  rcases List.getElem?_eq_some_iff.mp found with ⟨inside, rfl⟩
  have distinct := distinct_of_compile compiled
  have among : ((schema.screens.map Screen.id).findIdx? (· == schema.screens[position].id)) =
      some position := by
    have there : position < (schema.screens.map Screen.id).length := by simpa using inside
    refine List.findIdx?_eq_some_iff_getElem.mpr ⟨there, by simp, fun earlier before same => ?_⟩
    have there' : earlier < (schema.screens.map Screen.id).length := Nat.lt_trans before there
    have equal : (schema.screens.map Screen.id)[earlier] =
        (schema.screens.map Screen.id)[position] := by simpa using same
    exact Nat.ne_of_lt before (distinct.getElem_inj_iff.mp equal)
  rw [← ids_of_compile compiled, List.findIdx?_map] at among
  exact among

theorem turn?_gathered (compiled : schema.compile = .ok flow) (submits : schema.Submits submission)
    (found : schema.screens[position]? = some screen) :
    turn? (flow.document.screens.map ScreenRecord.page) submission
        ⟨position, schema.gathered submission position⟩ =
      some (if position + 1 < schema.screens.length then
          .visit ⟨position + 1, schema.gathered submission (position + 1)⟩
        else .complete (schema.gathered submission (position + 1))) := by
  have keyed := (compile_eq_ok_iff.mp compiled).2.1
  rcases page_of_compile compiled found with ⟨widgets, page⟩
  simp only [turn?, page, handOn?_gathered submits keyed found, Option.bind_eq_bind,
    Option.bind_some]
  split_ifs with more
  · have next : schema.screens[position + 1]? = some schema.screens[position + 1] :=
      List.getElem?_eq_getElem more
    simp only [ScreenRecord.page, recordAt, leaving, next, Action.next?]
    rw [findIdx?_of_compile compiled next]
    rfl
  · have last : schema.screens[position + 1]? = none := List.getElem?_eq_none (by omega)
    simp only [ScreenRecord.page, recordAt, leaving, last, Action.next?]
    rfl

theorem plays_gathered (compiled : schema.compile = .ok flow)
    (submits : schema.Submits submission) {following : Nat}
    (whole : position + (following + 1) = schema.screens.length) :
    Plays (flow.document.screens.map ScreenRecord.page) submission
      ⟨position, schema.gathered submission position⟩
      ((List.range' position (following + 1)).map fun position =>
        ⟨position, schema.gathered submission position⟩)
      (schema.gathered submission schema.screens.length) := by
  -- The induction is on the screens still to come. What a turn hands on is what was gathered up to
  -- the next screen, so each turn leads to the start of a shorter run.
  induction following generalizing position with
  | zero =>
      have found : schema.screens[position]? = some schema.screens[position] :=
        List.getElem?_eq_getElem (by omega)
      have turn := turn?_gathered compiled submits found
      rw [if_neg (by omega), whole] at turn
      exact .complete turn
  | succ following induction =>
      have found : schema.screens[position]? = some schema.screens[position] :=
        List.getElem?_eq_getElem (by omega)
      have turn := turn?_gathered compiled submits found
      rw [if_pos (by omega)] at turn
      exact .navigate turn (induction (by omega))

/-- A run of the pages of a form from the first one on, without any data at first. It shows the
screens in order, hands to each exactly what it declares, and its outcome has one entry for each
field, which is what the screen of the field submitted. -/
structure Runs (schema : Schema) (submission : Nat → Text → Option α) (pages : List Page)
    (visits : List (Visit α)) (final : List (Text × α)) : Prop where
  ids : pages.map Page.id = schema.screens.map Screen.id
  plays : Plays pages submission ⟨0, []⟩ visits final
  unique : ∀ visits' final', Plays pages submission ⟨0, []⟩ visits' final' →
    visits' = visits ∧ final' = final
  ordered : visits.map Visit.position = List.range schema.screens.length
  declared : ∀ visit ∈ visits, ∃ page, pages[visit.position]? = some page ∧
    Ordered.keys visit.incoming = page.declared
  complete : ∃ bound, Screen.bound schema.screens = .ok bound ∧
    Ordered.keys final = Ordered.keys bound
  distinct : (Ordered.keys final).Nodup
  submitted : ∀ position screen references, schema.screens[position]? = some screen →
    screen.formReferences = .ok references →
      ∀ key ∈ Ordered.keys references, Ordered.find? key final = submission position key

theorem runs_gathered (compiled : schema.compile = .ok flow)
    (submits : schema.Submits submission) :
    schema.Runs submission (flow.document.screens.map ScreenRecord.page)
      ((List.range schema.screens.length).map fun position =>
        ⟨position, schema.gathered submission position⟩)
      (schema.gathered submission schema.screens.length) := by
  have keyed := (compile_eq_ok_iff.mp compiled).2.1
  have filled := length_pos_of_compile compiled
  have whole : 0 + (schema.screens.length - 1 + 1) = schema.screens.length := by omega
  have plays := plays_gathered compiled submits whole
  rw [gathered_zero, Nat.sub_add_cancel filled, ← List.range_eq_range'] at plays
  refine
    { ids := ids_of_compile compiled
      plays
      unique := fun visits final other => other.unique plays
      ordered := ?ordered
      declared := ?declared
      complete := ?complete
      distinct := distinct_gathered submits keyed (Nat.le_refl _)
      submitted := ?submitted }
  case ordered =>
    rw [List.map_map]
    exact List.map_id _
  case declared =>
    intro visit member
    rcases List.mem_map.mp member with ⟨position, place, rfl⟩
    have inside : position < schema.screens.length := List.mem_range.mp place
    rcases page_of_compile compiled (List.getElem?_eq_getElem inside) with ⟨widgets, page⟩
    refine ⟨_, page, ?_⟩
    rw [keys_gathered submits keyed (Nat.le_of_lt inside)]
    exact (Screen.keys_keyed_map _ fun entry => Placeholder.ofComponent entry.2).symm
  case complete =>
    have bound := keyed.bound_take schema.screens.length
    have keys := keys_gathered submits keyed (Nat.le_refl schema.screens.length)
    rw [List.take_length] at bound keys
    exact ⟨_, bound, keys⟩
  case submitted =>
    intro position screen references found known key member
    rw [formReferences_eq keyed found, Except.ok.injEq] at known
    rw [← known, Screen.keys_keyed_map] at member
    rcases List.mem_map.mp member with ⟨entry, among, rfl⟩
    exact find?_gathered submits keyed found among

/-- Every form that compiles can be run from its document alone, whatever is submitted. -/
theorem run_of_compile (compiled : schema.compile = .ok flow)
    (submits : schema.Submits submission) :
    ∃ pages visits final, Page.ofDocument? flow.document.toValue = some pages ∧
      schema.Runs submission pages visits final :=
  ⟨_, _, _, Page.ofDocument?_toValue flow.document, runs_gathered compiled submits⟩

theorem signup_run :
    ∃ flow, Sample.signup.compile = .ok flow ∧
      Sample.signup.Submits (fun position key => some (position, key)) ∧
        ∃ pages visits final, Page.ofDocument? flow.document.toValue = some pages ∧
          Sample.signup.Runs (fun position key => some (position, key)) pages visits final := by
  have compiles : Outcome.Succeeds Sample.signup.compile := by decide +kernel
  rcases compiles with ⟨flow, compiled⟩
  have submits : Sample.signup.Submits fun position key => some (position, key) :=
    fun _ _ _ _ _ _ _ => rfl
  exact ⟨flow, compiled, submits, run_of_compile compiled submits⟩

end Schema

end ScreenFlow
