import ScreenFlow.Proofs.Collision
import ScreenFlow.Proofs.Escape
import ScreenFlow.Proofs.Inventory
import ScreenFlow.Proofs.Warnings

namespace ScreenFlow

/-! Reports that explain why a form is refused or changed. A report warns about every label that is
cut; of what can keep a form from being compiled after it was read, it passes over repeated keys,
and a name that is no text or a label without a length leaves the form without a report. -/

open Outcome

/-! ## Components -/

namespace Component

theorem compile_succeeds_of_short {component : Component} (wellFormed : component.WellFormed)
    (nameable : component.Nameable) (measurable : component.Measurable)
    (short : component.isLong = false) (screen position : Value) :
    Succeeds (component.compile screen position) := by
  rw [compile_succeeds_iff_showable wellFormed nameable]
  refine ⟨component.label, ?_, .inl rfl⟩
  rcases measurable with absent | measured
  · rw [absent]
    rfl
  · rcases Option.isSome_iff_exists.mp measured with ⟨length, measured⟩
    rw [isLong, measured, Option.any_some, decide_eq_false_iff_not] at short
    exact Naming.truncateLabel_of_short measured (Nat.not_lt.mp short)

end Component

namespace Placed

variable {placed : Placed}

theorem isSome_key?_of_given {name : Value} (nameable : placed.component.Nameable)
    (there : placed.component.name? = some name) (given : name.isGiven = true) :
    placed.key?.isSome = true := by
  have bound := boundKey?_of_nameable nameable
  rw [boundKey?_of_given there given] at bound
  rcases map_eq_ok.mp bound with ⟨key, -, keyed⟩
  rw [← keyed]
  rfl

theorem isSome_key? (named : placed.component.Named) (nameable : placed.component.Nameable)
    (field : ∀ type text name, placed.component ≠ .static type text name) :
    placed.key?.isSome = true := by
  rcases placed with ⟨screen, position, component⟩
  cases component with
  | static type text name => exact absurd rfl (field type text name)
  | input type name label required => exact isSome_key?_of_given nameable rfl named
  | choice type name label required options => exact isSome_key?_of_given nameable rfl named
  | foreign => exact named.elim

theorem analyzable_iff (named : placed.component.Named) :
    placed.Analyzable ↔ placed.component.Nameable ∧ placed.component.Measurable := by
  apply and_congr_right
  intro nameable
  by_cases shown : ∃ type text name, placed.component = .static type text name
  · rcases shown with ⟨type, text, name, same⟩
    have absent : placed.component.Measurable := by
      rw [same]
      exact .inl rfl
    exact iff_of_true (fun _ => absent) absent
  · have keyed := isSome_key? named nameable fun type text name same =>
      shown ⟨type, text, name, same⟩
    simp [keyed]

theorem longKey?_eq_none_iff (named : placed.component.Named)
    (nameable : placed.component.Nameable) :
    placed.longKey? = none ↔ placed.component.isLong = false := by
  rw [longKey?]
  cases long : placed.component.isLong with
  | false => simp
  | true =>
      have keyed := isSome_key? named nameable fun type text name same => by
        rw [same] at long
        cases long
      simpa using Option.isSome_iff_ne_none.mp keyed

theorem bareKey?_eq_none_iff (named : placed.component.Named)
    (nameable : placed.component.Nameable) :
    placed.bareKey? = none ↔ placed.component.lacksOptions = false := by
  rw [bareKey?]
  cases bare : placed.component.lacksOptions with
  | false => simp
  | true =>
      have keyed := isSome_key? named nameable fun type text name same => by
        rw [same] at bare
        cases bare
      simpa using Option.isSome_iff_ne_none.mp keyed

end Placed

namespace Schema

variable {schema : Schema} {document : Value}

def Troubled (schema : Schema) : Prop :=
  ¬ ∃ flow, schema.compile = .ok flow ∧ flow.diagnostics = []

/-- There is a report on the form, and it warns if the form is refused or compiled with a note. -/
def Explained (schema : Schema) : Prop :=
  ∃ report, schema.analyze = .ok report ∧ (schema.Troubled → report.warnings ≠ [])

structure Quiet (schema : Schema) : Prop where
  short : ∀ placed ∈ schema.placed, placed.component.isLong = false
  offered : ∀ placed ∈ schema.placed, placed.component.lacksOptions = false
  filled : ∀ screen ∈ schema.screens, screen.components ≠ []

/-- Why there is no report, or none that warns although the form is refused. -/
inductive Unexplained (schema : Schema) : Prop
  | name {placed : Placed} {name : Value} (member : placed ∈ schema.placed)
      (named : placed.component.name? = some name) (given : name.isGiven = true)
      (noText : ∀ content, name ≠ .text content)
  | label {placed : Placed} (member : placed ∈ schema.placed)
      (unmeasurable : ¬ placed.component.Measurable)
  | collision {place : Nat} {placed : Placed} {key : Text}
      (repeated : Placed.Repeated schema.placed place placed key) (quiet : schema.Quiet)

theorem warnings_eq_nil_iff {report : Report} (fits : Layout.Fits schema.counts)
    (named : ∀ placed ∈ schema.placed, placed.component.Named)
    (analyzed : schema.analyze = .ok report) : report.warnings = [] ↔ schema.Quiet := by
  rcases analyze_eq_ok_iff.mp analyzed with ⟨each, rfl⟩
  have short : schema.survey.truncatedLabels = [] ↔
      ∀ placed ∈ schema.placed, placed.component.isLong = false := by
    rw [survey, List.filterMap_eq_nil_iff]
    exact forall₂_congr fun placed member =>
      Placed.longKey?_eq_none_iff (named placed member) (each placed member).1
  have offered : schema.survey.choicesWithoutOptions = [] ↔
      ∀ placed ∈ schema.placed, placed.component.lacksOptions = false := by
    rw [survey, List.filterMap_eq_nil_iff]
    exact forall₂_congr fun placed member =>
      Placed.bareKey?_eq_none_iff (named placed member) (each placed member).1
  have filled : schema.survey.emptyScreens = [] ↔
      ∀ screen ∈ schema.screens, screen.components ≠ [] := by
    rw [survey, List.map_eq_nil_iff, List.filter_eq_nil_iff]
    simp
  have silent : schema.survey.warnings = [] := rfl
  rw [Report.warnings_foldl_calledFor silent, calledFor_eq_nil_iff fits, short, offered, filled]
  exact ⟨fun given => ⟨given.1, given.2.1, given.2.2⟩,
    fun quiet => ⟨quiet.short, quiet.offered, quiet.filled⟩⟩

theorem not_troubled_of_quiet (read : ofValue document = .ok schema) (quiet : schema.Quiet)
    (nameable : ∀ placed ∈ schema.placed, placed.component.Nameable)
    (measurable : ∀ placed ∈ schema.placed, placed.component.Measurable)
    (distinct : ∀ place placed key, ¬ Placed.Repeated schema.placed place placed key) :
    ¬ schema.Troubled := by
  have wellFormed := wellFormed_of_read read
  have named := fun placed member => Component.named_of_wellFormed (wellFormed placed member)
  rw [← Placed.distinct_iff_not_repeated nameable] at distinct
  have keyed : schema.Keyed := ⟨nameable, by rw [Screen.keys_keyed]; exact distinct⟩
  have parts : Succeeds (schema.screens.mapM Screen.parts) :=
    succeeds_parts_iff.mpr fun placed member => Component.compile_succeeds_of_short
      (wellFormed _ member) (nameable _ member) (measurable _ member) (quiet.short _ member) _ _
  rcases parts with ⟨parts, made⟩
  have compiled := compile_eq_ok_iff.mpr ⟨fits_of_read read, keyed, parts, made, rfl⟩
  have notes := truncated_of_compile named compiled
  have none : schema.survey.truncatedLabels = [] := by
    rw [survey, List.filterMap_eq_nil_iff]
    intro placed member
    rw [Placed.longKey?, quiet.short placed member, if_neg Bool.false_ne_true]
  rw [none, eq_comm, List.map_eq_nil_iff] at notes
  exact not_not.mpr ⟨_, compiled, notes⟩

theorem troubled_of_repeated {place : Nat} {placed : Placed} {key : Text}
    (repeated : Placed.Repeated schema.placed place placed key) : schema.Troubled := by
  intro given
  rcases given with ⟨flow, compiled, -⟩
  have keyed := (compile_eq_ok_iff.mp compiled).2.1
  have distinct := keyed.distinct
  rw [Screen.keys_keyed, ← Schema.placed,
    Placed.distinct_iff_not_repeated keyed.nameable] at distinct
  exact distinct place placed key repeated

theorem not_explained_of_unexplained (read : ofValue document = .ok schema)
    (unexplained : schema.Unexplained) : ¬ schema.Explained := by
  have wellFormed := wellFormed_of_read read
  have named := fun placed member => Component.named_of_wellFormed (wellFormed placed member)
  intro explained
  rcases explained with ⟨report, analyzed, warns⟩
  have each := (analyze_eq_ok_iff.mp analyzed).1
  cases unexplained with
  | name member there given noText =>
      exact (Component.not_nameable_iff (wellFormed _ member)).mpr ⟨_, there, given, noText⟩
        (each _ member).1
  | label member unmeasurable =>
      exact unmeasurable ((Placed.analyzable_iff (named _ member)).mp (each _ member)).2
  | collision repeated quiet =>
      exact warns (troubled_of_repeated repeated)
        ((warnings_eq_nil_iff (fits_of_read read) named analyzed).mpr quiet)

theorem explained_of_not_unexplained (read : ofValue document = .ok schema)
    (clear : ¬ schema.Unexplained) : schema.Explained := by
  have wellFormed := wellFormed_of_read read
  have named := fun placed member => Component.named_of_wellFormed (wellFormed placed member)
  have nameable : ∀ placed ∈ schema.placed, placed.component.Nameable := by
    intro placed member
    by_contra unnameable
    rcases (Component.not_nameable_iff (wellFormed placed member)).mp unnameable with
      ⟨name, there, given, noText⟩
    exact clear (.name member there given noText)
  have measurable : ∀ placed ∈ schema.placed, placed.component.Measurable := by
    intro placed member
    by_contra unmeasurable
    exact clear (.label member unmeasurable)
  have analyzable : ∀ placed ∈ schema.placed, placed.Analyzable := fun placed member =>
    (Placed.analyzable_iff (named placed member)).mpr
      ⟨nameable placed member, measurable placed member⟩
  have analyzed := analyze_eq_ok_iff.mpr ⟨analyzable, rfl⟩
  refine ⟨_, analyzed, fun troubled silent => ?_⟩
  have quiet := (warnings_eq_nil_iff (fits_of_read read) named analyzed).mp silent
  -- What is left that could keep a quiet form from being compiled is a repeated key.
  refine not_troubled_of_quiet read quiet nameable measurable ?_ troubled
  exact fun place placed key repeated => clear (.collision repeated quiet)

/-- A form that was read has a report that explains what the compiler does to it, unless a name is
no text, a label has no length, or the only thing that is wrong is that a key is repeated. -/
theorem explained_iff_not_unexplained (read : ofValue document = .ok schema) :
    schema.Explained ↔ ¬ schema.Unexplained := by
  constructor
  · exact fun explained unexplained => not_explained_of_unexplained read unexplained explained
  · exact explained_of_not_unexplained read

def longDocument : Value :=
  .map [field "screens" (.list [
    .map [field "id" (.text "a"), field "components" (.list [
      .map [field "type" (.text "input"), field "name" (.text "n"),
        field "label" (.text "Your name as it is to be shown")]])]])]

theorem longDocument_explained :
    ∃ schema, ofValue longDocument = .ok schema ∧ schema.Troubled ∧ schema.Explained := by
  let asked : Component :=
    .input .input (.text "n") (.text "Your name as it is to be shown") (.bool false)
  let schema : Schema := ⟨[⟨"a", .text "", [asked]⟩]⟩
  have read : ofValue longDocument = .ok schema := by decide +kernel
  have components : schema.placed = [⟨"a", 0, asked⟩] := rfl
  have noted : schema.compile.map (fun flow => flow.diagnostics.length) = .ok 1 := by
    decide +kernel
  refine ⟨schema, read, ?_, (explained_iff_not_unexplained read).mpr fun unexplained => ?_⟩
  · intro given
    rcases given with ⟨flow, compiled, silent⟩
    simp [compiled, silent, Except.map] at noted
  · cases unexplained with
    | name member there given noText =>
        rw [components, List.mem_singleton] at member
        subst member
        exact noText "n" (Option.some.inj there).symm
    | label member unmeasurable =>
        rw [components, List.mem_singleton] at member
        subst member
        exact unmeasurable (.inr rfl)
    | collision _ quiet =>
        have short := quiet.short ⟨"a", 0, asked⟩ (components ▸ List.mem_singleton_self _)
        exact absurd short (by decide)

theorem clash_not_explained :
    clashDocument.isJson = true ∧ ofValue clashDocument = .ok clash ∧ ¬ clash.Explained := by
  have read : ofValue clashDocument = .ok clash := by decide +kernel
  have refused : clash.compile = reject (.repeatedName (.text "a_b_c_0") (.text "a")) := by
    decide +kernel
  have silent : clash.analyze.map Report.warnings = .ok [] := by decide +kernel
  refine ⟨rfl, read, fun explained => ?_⟩
  rcases explained with ⟨report, analyzed, warns⟩
  rw [analyzed, Except.map, Except.ok.injEq] at silent
  refine warns (fun given => ?_) silent
  rcases given with ⟨flow, compiled, -⟩
  rw [refused] at compiled
  cases compiled

end Schema

end ScreenFlow
