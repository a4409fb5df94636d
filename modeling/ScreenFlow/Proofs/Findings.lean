import ScreenFlow.Proofs.Widgets
import ScreenFlow.Proofs.Writing
import ScreenFlow.Report

namespace ScreenFlow

/-! What an analysis finds. It goes through the components screen by screen and counts as it goes;
all that it counts is in the list of all components. -/

open Outcome

/-! ## Components -/

namespace Component

def Measurable (component : Component) : Prop :=
  component.label = .null ∨ component.label.length?.isSome = true

def isLong (component : Component) : Bool :=
  component.label.length?.any fun length => decide (Naming.maxLabelLength < length)

theorem hasLongLabel_eq_ok_iff {component : Component} {long : Bool} :
    component.hasLongLabel = .ok long ↔ component.Measurable ∧ component.isLong = long := by
  rw [hasLongLabel, Measurable, isLong]
  by_cases absent : component.label = .null
  · simp [absent, Value.isNull, Value.length?]
  · have given : component.label.isNull = false := by
      rwa [← Bool.not_eq_true, Value.isNull_iff]
    rw [given, or_iff_right absent]
    cases component.label.length? <;>
      simp [orFault, bind, Except.bind, pure, Except.pure]

theorem unrejected_hasLongLabel (component : Component) : Unrejected component.hasLongLabel := by
  rw [hasLongLabel]
  split
  · exact unrejected_ok _
  · exact unrejected_bind (unrejected_orFault (by simp) _) fun _ _ => unrejected_ok _

end Component

namespace Placed

def Analyzable (placed : Placed) : Prop :=
  placed.component.Nameable ∧ (placed.key?.isSome = true → placed.component.Measurable)

def longKey? (placed : Placed) : Option Text :=
  if placed.component.isLong then placed.key? else none

def bareKey? (placed : Placed) : Option Text :=
  if placed.component.lacksOptions then placed.key? else none

end Placed

namespace FieldFindings

def about (placeds : List Placed) : FieldFindings where
  count := (placeds.filterMap Placed.key?).length
  longLabels := placeds.filterMap Placed.longKey?
  withoutOptions := placeds.filterMap Placed.bareKey?

variable {placed : Placed} {placeds : List Placed} {findings : FieldFindings}

theorem about_cons_of_unbound (unbound : placed.key? = none) :
    about (placed :: placeds) = about placeds := by
  have long : placed.longKey? = none := by simp [Placed.longKey?, unbound]
  have bare : placed.bareKey? = none := by simp [Placed.bareKey?, unbound]
  simp [about, unbound, long, bare]

theorem about_cons_of_bound {key : Text} (bound : placed.key? = some key) :
    about (placed :: placeds) =
      { count := (about placeds).count + 1
        longLabels := (if placed.component.isLong then [key] else []) ++ (about placeds).longLabels
        withoutOptions := (if placed.component.lacksOptions then [key] else []) ++
          (about placeds).withoutOptions } := by
  have long : placed.longKey?.toList = if placed.component.isLong then [key] else [] := by
    cases held : placed.component.isLong <;> simp [Placed.longKey?, held, bound]
  have bare : placed.bareKey?.toList = if placed.component.lacksOptions then [key] else [] := by
    cases held : placed.component.lacksOptions <;> simp [Placed.bareKey?, held, bound]
  rw [← long, ← bare]
  cases longKey : placed.longKey? <;> cases bareKey : placed.bareKey? <;>
    simp [about, bound, longKey, bareKey]

theorem ofPlaced_eq_ok_iff :
    ofPlaced placeds = .ok findings ↔
      (∀ placed ∈ placeds, placed.Analyzable) ∧ about placeds = findings := by
  induction placeds generalizing findings with
  | nil => simp [ofPlaced, about, pure, Except.pure]
  | cons placed placeds induction =>
      rw [ofPlaced, bind_eq_ok, List.forall_mem_cons, Placed.Analyzable]
      constructor
      · intro given
        rcases given with ⟨key?, bound, stepped⟩
        rcases Placed.boundKey?_eq_ok_iff.mp bound with ⟨nameable, keyed⟩
        cases key? with
        | none =>
            rcases induction.mp stepped with ⟨each, same⟩
            rw [about_cons_of_unbound keyed]
            exact ⟨⟨⟨nameable, by simp [keyed]⟩, each⟩, same⟩
        | some key =>
            rcases bind_eq_ok.mp stepped with ⟨long, measured, stepped⟩
            rcases Component.hasLongLabel_eq_ok_iff.mp measured with ⟨measurable, rfl⟩
            rcases bind_eq_ok.mp stepped with ⟨later, found, stepped⟩
            rcases induction.mp found with ⟨each, rfl⟩
            rw [about_cons_of_bound keyed]
            exact ⟨⟨⟨nameable, fun _ => measurable⟩, each⟩, pure_eq_ok.mp stepped⟩
      · intro given
        rcases given with ⟨⟨⟨nameable, measurable⟩, each⟩, rfl⟩
        refine ⟨placed.key?, Placed.boundKey?_of_nameable nameable, ?_⟩
        cases keyed : placed.key? with
        | none =>
            rw [about_cons_of_unbound keyed]
            exact induction.mpr ⟨each, rfl⟩
        | some key =>
            have measured := Component.hasLongLabel_eq_ok_iff.mpr
              ⟨measurable (by rw [keyed]; rfl), rfl⟩
            simp only [measured, ok_bind, induction.mpr ⟨each, rfl⟩, about_cons_of_bound keyed]
            rfl

theorem unrejected_ofPlaced (placeds : List Placed) : Unrejected (ofPlaced placeds) := by
  induction placeds with
  | nil => exact unrejected_ok _
  | cons placed placeds induction =>
      rw [ofPlaced]
      refine unrejected_bind placed.unrejected_boundKey? fun key? _ => ?_
      cases key? with
      | none => exact induction
      | some key =>
          exact unrejected_bind placed.component.unrejected_hasLongLabel fun _ _ =>
            unrejected_bind induction fun _ _ => unrejected_ok _

end FieldFindings

/-! ## Inventory -/

theorem Screen.length_placed (screen : Screen) :
    screen.placed.length = screen.components.length := by
  rw [placed, List.length_map, ← List.length_map Prod.snd, Sequence.map_snd_indexed]

theorem FieldFindings.count_about (screen : Screen) :
    (about screen.placed).count = (Screen.keyed [screen]).length := by
  rw [about, ← List.length_map Prod.fst, ← Ordered.keys, Screen.keys_keyed, List.flatMap_singleton]

namespace Schema

open FieldFindings

variable {schema : Schema} {report : Report}

theorem getElem?_inboundFrom (before : Nat) (screens : List Screen) (position : Nat) :
    (inboundFrom before (screens.map fun screen => (screen.id, about screen.placed)))[position]? =
      screens[position]?.map fun screen =>
        (screen.id, before + (Screen.keyed (screens.take position)).length) := by
  induction screens generalizing before position with
  | nil => rfl
  | cons screen screens induction =>
      cases position with
      | zero => rfl
      | succ position =>
          rw [List.map_cons, inboundFrom, List.getElem?_cons_succ, induction,
            List.getElem?_cons_succ, List.take_succ_cons, count_about]
          have split : (Screen.keyed (screen :: screens.take position)).length =
              (Screen.keyed [screen]).length + (Screen.keyed (screens.take position)).length := by
            rw [← List.singleton_append, Screen.keyed_append, List.length_append]
          rw [split, Nat.add_assoc]

def survey (schema : Schema) : Report where
  totalScreens := schema.screens.length
  totalComponents := schema.placed.length
  totalFields := (Screen.keyed schema.screens).length
  inbound := Ordered.ofEntries
    (inboundFrom 0 (schema.screens.map fun screen => (screen.id, about screen.placed)))
  terminal := (schema.screens.map Screen.id).getLast?
  truncatedLabels := schema.placed.filterMap Placed.longKey?
  choicesWithoutOptions := schema.placed.filterMap Placed.bareKey?
  emptyScreens := (schema.screens.filter (·.components.isEmpty)).map Screen.id
  duplicateIds := duplicateIds (schema.screens.map Screen.id)
  oversizedScreens :=
    (schema.screens.filter fun screen => screen.components.length > maxComponents).map Screen.id
  warnings := []

theorem findings_eq_ok_iff {found : List FieldFindings} :
    (schema.screens.mapM fun screen => ofPlaced screen.placed) = .ok found ↔
      (∀ placed ∈ schema.placed, placed.Analyzable) ∧
        (schema.screens.map fun screen => about screen.placed) = found := by
  rw [Schema.placed, List.forall_mem_flatMap]
  exact mapM_eq_ok_iff_map fun _ _ => ofPlaced_eq_ok_iff

theorem foldl_components (schema : Schema) :
    (schema.screens.map (·.components.length)).foldl Nat.add 0 = schema.placed.length := by
  rw [Schema.placed, List.length_flatMap, List.sum_eq_foldl]
  simp only [Screen.length_placed]
  rfl

theorem foldl_fields (schema : Schema) :
    ((schema.screens.map fun screen => about screen.placed).map (·.count)).foldl Nat.add 0 =
      (Screen.keyed schema.screens).length := by
  rw [← List.length_map Prod.fst, ← Ordered.keys, Screen.keys_keyed, List.filterMap_flatMap,
    List.length_flatMap, List.sum_eq_foldl, List.map_map]
  rfl

theorem inventory_eq_ok_iff :
    schema.inventory = .ok report ↔
      (∀ placed ∈ schema.placed, placed.Analyzable) ∧ schema.survey = report := by
  have longLabels : (schema.screens.flatMap fun screen => (about screen.placed).longLabels) =
      schema.placed.filterMap Placed.longKey? := by
    rw [Schema.placed, List.filterMap_flatMap]
    rfl
  have withoutOptions :
      (schema.screens.flatMap fun screen => (about screen.placed).withoutOptions) =
        schema.placed.filterMap Placed.bareKey? := by
    rw [Schema.placed, List.filterMap_flatMap]
    rfl
  rw [inventory, bind_eq_ok]
  simp only [findings_eq_ok_iff, and_assoc, exists_and_left, exists_eq_left', pure_eq_ok,
    foldl_components, foldl_fields, List.zip_map', List.flatMap_map, longLabels, withoutOptions]
  rfl

end Schema

/-! ## Warnings -/

namespace Report

variable {report : Report} {warning : Value} {called : List Value}

theorem addWarning_eq (report : Report) (warning : Value) :
    report.addWarning warning =
      { report with warnings := (report.addWarning warning).warnings } := by
  rw [addWarning]
  split <;> rfl

theorem foldl_addWarning_eq (report : Report) (called : List Value) :
    called.foldl addWarning report =
      { report with warnings := (called.foldl addWarning report).warnings } := by
  induction called generalizing report with
  | nil => rfl
  | cons warning called induction =>
      rw [List.foldl_cons, induction, addWarning_eq]

theorem listing_eq_nil_iff {subject : Text} {found : List Text} :
    listing subject found = [] ↔ found = [] := by
  rw [listing]
  cases found <;> simp

end Report

namespace Schema

variable {schema : Schema} {report : Report}

theorem analyze_eq_ok_iff :
    schema.analyze = .ok report ↔
      (∀ placed ∈ schema.placed, placed.Analyzable) ∧
        schema.survey.calledFor.foldl Report.addWarning schema.survey = report := by
  rw [analyze, bind_eq_ok]
  simp only [inventory_eq_ok_iff, and_assoc, exists_and_left, exists_eq_left', pure_eq_ok]

theorem unrejected_analyze (schema : Schema) : Unrejected schema.analyze :=
  unrejected_bind (unrejected_bind (unrejected_mapM fun _ _ => FieldFindings.unrejected_ofPlaced _)
    fun _ _ => unrejected_ok _) fun _ _ => unrejected_ok _

theorem mem_duplicateIds_iff {ids : List Text} {id : Text} :
    id ∈ duplicateIds ids ↔ 1 < ids.count id := by
  rw [duplicateIds, Sequence.mem_sort, List.mem_eraseDups, List.mem_filter, decide_eq_true_eq,
    ← List.count_pos_iff]
  omega

theorem duplicateIds_eq_nil_iff {ids : List Text} : duplicateIds ids = [] ↔ ids.Nodup := by
  simp only [List.eq_nil_iff_forall_not_mem, mem_duplicateIds_iff, Nat.not_lt,
    List.nodup_iff_count_le_one]

theorem oversizedScreens_eq_nil_iff :
    schema.survey.oversizedScreens = [] ↔ ∀ entry ∈ schema.counts, entry.2 ≤ maxComponents := by
  simp [survey, counts]

theorem oversizedScreens_of_fits (fits : Layout.Fits schema.counts) :
    schema.survey.oversizedScreens = [] :=
  oversizedScreens_eq_nil_iff.mpr fits.components

theorem duplicateIds_of_fits (fits : Layout.Fits schema.counts) :
    schema.survey.duplicateIds = [] := by
  apply duplicateIds_eq_nil_iff.mpr
  simpa [counts, Function.comp_def] using fits.distinct

/-- A schema within the limits is warned about for long labels, for choices without options and for
empty screens, and for nothing else. -/
theorem calledFor_eq_nil_iff (fits : Layout.Fits schema.counts) :
    schema.survey.calledFor = [] ↔
      schema.survey.truncatedLabels = [] ∧ schema.survey.choicesWithoutOptions = [] ∧
        schema.survey.emptyScreens = [] := by
  have some : schema.survey.totalScreens ≠ 0 := by
    simpa [survey, counts] using fits.nonempty
  have few : ¬ schema.survey.totalScreens > maxScreens := by
    simpa [survey, counts] using fits.screens
  rw [Report.calledFor, oversizedScreens_of_fits fits, duplicateIds_of_fits fits, if_neg some,
    if_neg few]
  simp [Report.listing_eq_nil_iff]

end Schema

end ScreenFlow
