import Mathlib.Data.Nat.Find
import ScreenFlow.Proofs.Findings

namespace ScreenFlow

/-! What the check of a layout ends with, by the positions of its screens. It reports the first screen
that keeps the layout from passing, while an analysis counts to the end; still a form fails the check
exactly if its report shows that. -/

open Outcome

namespace Layout

/-! ## Layouts -/

/-- A layout of screens with texts for ids and whole numbers for sizes, as it is checked. -/
def ofSizes (sizes : List (Text × Int)) : List (Value × Value) :=
  sizes.map fun (id, size) => (.text id, .int size)

/-- A layout as one value: a list with a pair for each screen. -/
def valueOf (sizes : List (Text × Int)) : Value :=
  .list (sizes.map fun (id, size) => .tuple [.text id, .int size])

def counted (sizes : List (Text × Int)) : List (Text × Nat) :=
  sizes.map fun (id, size) => (id, size.toNat)

def IsBefore (sizes : List (Text × Int)) (position : Nat) (id : Text) : Prop :=
  ∃ earlier < position, ∃ size, sizes[earlier]? = some (id, size)

/-- The screen at a position keeps the layout from passing: an earlier one has its id, or it has too
many components. -/
def HasDefect (sizes : List (Text × Int)) (position : Nat) : Prop :=
  ∃ id size, sizes[position]? = some (id, size) ∧
    (IsBefore sizes position id ∨ (maxComponents : Int) < size)

/-- What the check of a layout ends with. The number of screens comes first; then the least position
with a defect counts, and there a repeated id comes before a size. -/
inductive Verdict (sizes : List (Text × Int)) : Except Fault Unit → Prop
  | none (empty : sizes = []) : Verdict sizes (reject .noScreens)
  | many (many : maxScreens < sizes.length) :
      Verdict sizes (reject (.tooManyScreens (.int maxScreens) (.int sizes.length)))
  | repeated {position : Nat} {id : Text} {size : Int} (few : sizes.length ≤ maxScreens)
      (found : sizes[position]? = some (id, size))
      (first : ∀ earlier < position, ¬ HasDefect sizes earlier)
      (again : IsBefore sizes position id) : Verdict sizes (reject (.repeatedScreen (.text id)))
  | large {position : Nat} {id : Text} {size : Int} (few : sizes.length ≤ maxScreens)
      (found : sizes[position]? = some (id, size))
      (first : ∀ earlier < position, ¬ HasDefect sizes earlier)
      (fresh : ¬ IsBefore sizes position id) (large : (maxComponents : Int) < size) :
      Verdict sizes (reject (.tooManyComponents (.int maxComponents) (.int size) (.text id)))
  | passed (some : sizes ≠ []) (few : sizes.length ≤ maxScreens)
      (sound : ∀ position, ¬ HasDefect sizes position) : Verdict sizes (.ok ())

variable {sizes before after : List (Text × Int)} {id : Text} {size : Int}

/-! ## Counts -/

theorem checkComponentCount_toNat (screen : Value) (size : Int) :
    checkComponentCount screen (.int size) = checkComponentCount screen (.int size.toNat) := by
  by_cases large : (maxComponents : Int) < size
  · rw [Int.toNat_of_nonneg (by omega)]
  · rw [checkComponentCount_int, if_neg (by omega)]
    simp [checkComponentCount, exceeds, Value.whole?, large, bind, Except.bind, pure, Except.pure]

theorem check_ofSizes (sizes : List (Text × Int)) :
    check (ofSizes sizes) = check (ofCounts (counted sizes)) := by
  -- Whatever was seen before, since that grows along the list.
  have screens (seen : List Value) :
      checkScreens seen (ofSizes sizes) = checkScreens seen (ofCounts (counted sizes)) := by
    induction sizes generalizing seen with
    | nil => rfl
    | cons entry sizes induction =>
        rcases entry with ⟨id, size⟩
        simp only [ofSizes, ofCounts, counted, List.map_cons] at induction ⊢
        rw [checkScreens, checkScreens, checkComponentCount_toNat]
        simp only [induction]
  have length : (ofSizes sizes).length = (ofCounts (counted sizes)).length := by
    simp [ofSizes, ofCounts, counted]
  rw [check, check, screens, length]

theorem sizesOf_pairs (sizes : List (Text × Int)) :
    sizesOf (sizes.map fun (id, size) => .tuple [.text id, .int size]) =
      (ofSizes sizes, .ok ()) := by
  induction sizes with
  | nil => rfl
  | cons entry sizes induction =>
      rw [List.map_cons, sizesOf, induction]
      rfl

theorem checkValue_valueOf (sizes : List (Text × Int)) :
    checkValue (valueOf sizes) = check (ofSizes sizes) := by
  have parts : (valueOf sizes).parts? =
      some (sizes.map fun (id, size) => .tuple [.text id, .int size]) := rfl
  have length : (ofSizes sizes).length = sizes.length := by simp [ofSizes]
  simp only [checkValue, check, parts, orFault, ok_bind, sizesOf_pairs, List.length_map, length]
  cases checkScreenCount (.int sizes.length) with
  | error fault => rfl
  | ok _ => cases checkScreens [] (ofSizes sizes) <;> rfl

/-! ## Positions -/

theorem isBefore_split_iff :
    IsBefore (before ++ after) before.length id ↔ id ∈ (counted before).map Prod.fst := by
  have ids : (counted before).map Prod.fst = before.map Prod.fst := by simp [counted]
  rw [ids, IsBefore, List.mem_map]
  constructor
  · intro given
    rcases given with ⟨earlier, inside, size, found⟩
    rw [List.getElem?_append_left inside] at found
    exact ⟨(id, size), List.mem_of_getElem? found, rfl⟩
  · intro given
    rcases given with ⟨⟨_, size⟩, member, rfl⟩
    rcases List.mem_iff_getElem?.mp member with ⟨earlier, found⟩
    have inside := (List.getElem?_eq_some_iff.mp found).1
    exact ⟨earlier, inside, size, by rwa [List.getElem?_append_left inside]⟩

theorem hasDefect_append_iff {position : Nat} (inside : position < before.length) :
    HasDefect (before ++ after) position ↔ HasDefect before position := by
  have same {place : Nat} (within : place ≤ position) :
      (before ++ after)[place]? = before[place]? :=
    List.getElem?_append_left (by omega)
  have earlier (id : Text) :
      IsBefore (before ++ after) position id ↔ IsBefore before position id :=
    exists_congr fun place => and_congr_right fun smaller => by rw [same (Nat.le_of_lt smaller)]
  simp only [HasDefect, same (Nat.le_refl position), earlier]

theorem sound_iff : Sound (counted sizes) ↔ ∀ position, ¬ HasDefect sizes position := by
  have ids : (counted sizes).map Prod.fst = sizes.map Prod.fst := by simp [counted]
  constructor
  · intro sound position defect
    rcases defect with ⟨id, size, found, ⟨earlier, before, size', found'⟩ | large⟩
    · have distinct := sound.distinct
      rw [ids, List.nodup_iff_getElem?_ne_getElem?] at distinct
      have inside := (List.getElem?_eq_some_iff.mp found).1
      exact distinct earlier position before (by rwa [List.length_map])
        (by rw [List.getElem?_map, List.getElem?_map, found, found']; rfl)
    · have within := sound.components _ (List.mem_map_of_mem (List.mem_of_getElem? found))
      exact absurd large (Int.not_lt.mpr (Int.toNat_le.mp within))
  · intro none
    constructor
    · rw [ids, List.nodup_iff_getElem?_ne_getElem?]
      intro earlier position before inside equal
      rw [List.length_map] at inside
      have found := List.getElem?_eq_getElem inside
      rw [List.getElem?_map, List.getElem?_map, found, Option.map_some,
        Option.map_eq_some_iff] at equal
      rcases equal with ⟨⟨_, size⟩, found', rfl⟩
      exact none position ⟨_, _, found, .inl ⟨earlier, before, size, found'⟩⟩
    · intro entry member
      rcases List.mem_map.mp member with ⟨⟨id, size⟩, among, rfl⟩
      rcases List.mem_iff_getElem?.mp among with ⟨position, found⟩
      have small : ¬ (maxComponents : Int) < size := fun large =>
        none position ⟨id, size, found, .inr large⟩
      exact Int.toNat_le.mpr (Int.not_lt.mp small)

/-! ## Outcomes -/

theorem exists_verdict (sizes : List (Text × Int)) : ∃ outcome, Verdict sizes outcome := by
  classical
  by_cases empty : sizes = []
  · exact ⟨_, .none empty⟩
  by_cases few : sizes.length ≤ maxScreens
  -- Among the positions with a defect, if there are any, the least one decides.
  · by_cases flawed : ∃ position, HasDefect sizes position
    · have first : ∀ earlier < Nat.find flawed, ¬ HasDefect sizes earlier := fun _ before =>
        Nat.find_min flawed before
      rcases Nat.find_spec flawed with ⟨id, size, found, defect⟩
      by_cases again : IsBefore sizes (Nat.find flawed) id
      · exact ⟨_, .repeated few found first again⟩
      · exact ⟨_, .large few found first again (defect.resolve_left again)⟩
    · exact ⟨_, .passed empty few (not_exists.mp flawed)⟩
  · exact ⟨_, .many (Nat.not_le.mp few)⟩

theorem exists_split {position : Nat} (found : sizes[position]? = some (id, size))
    (first : ∀ earlier < position, ¬ HasDefect sizes earlier) :
    ∃ before after, counted sizes = counted before ++ (id, size.toNat) :: after ∧
      Sound (counted before) ∧
        (IsBefore sizes position id ↔ id ∈ (counted before).map Prod.fst) := by
  rcases exists_split_of_getElem? found with ⟨before, after, rfl, rfl⟩
  refine ⟨before, counted after, by simp [counted], sound_iff.mpr fun earlier => ?_,
    isBefore_split_iff⟩
  by_cases inside : earlier < before.length
  · rw [← @hasDefect_append_iff before ((id, size) :: after) earlier inside]
    exact first earlier inside
  · intro defect
    rcases defect with ⟨id, size, found, -⟩
    exact inside (List.getElem?_eq_some_iff.mp found).1

theorem check_of_verdict {outcome : Except Fault Unit} (verdict : Verdict sizes outcome) :
    check (ofSizes sizes) = outcome := by
  have length : (counted sizes).length = sizes.length := List.length_map _
  rw [check_ofSizes]
  -- The least position with a defect is where the layout splits into sound screens and the rest.
  cases verdict with
  | none empty =>
      subst empty
      rfl
  | many many =>
      rw [check, ofCounts, List.length_map, length, checkScreenCount_int, if_neg (by omega),
        if_pos many]
      rfl
  | repeated few found first again =>
      rcases exists_split found first with ⟨before, after, split, sound, same⟩
      exact check_of_firstDefect (by rwa [length]) (.repeated split sound (same.mp again))
  | large few found first fresh large =>
      rcases exists_split found first with ⟨before, after, split, sound, same⟩
      have defect := FirstDefect.large split sound (mt same.mpr fresh) (by omega)
      rw [Int.toNat_of_nonneg (by omega)] at defect
      exact check_of_firstDefect (by rwa [length]) defect
  | passed some few sound =>
      rw [check_eq_ok_iff, fits_iff, sound_iff, length]
      exact ⟨by simpa [counted] using some, few, sound⟩

theorem check_eq_iff_verdict {outcome : Except Fault Unit} :
    check (ofSizes sizes) = outcome ↔ Verdict sizes outcome := by
  constructor
  · rintro rfl
    rcases exists_verdict sizes with ⟨outcome, verdict⟩
    rwa [check_of_verdict verdict]
  · exact check_of_verdict

end Layout

/-! ## Reports -/

/-- The report shows that a form has no screen or too many, a screen with too many components, or an
id that comes again. -/
def Report.ShowsLimits (report : Report) : Prop :=
  report.totalScreens < 1 ∨ maxScreens < report.totalScreens ∨ report.oversizedScreens ≠ [] ∨
    report.duplicateIds ≠ []

namespace Schema

variable {schema : Schema} {report : Report}

theorem showsLimits_survey_iff : schema.survey.ShowsLimits ↔ ¬ Layout.Fits schema.counts := by
  have ids : schema.counts.map Prod.fst = schema.screens.map Screen.id := by simp [counts]
  have length : schema.counts.length = schema.screens.length := List.length_map _
  have screens : schema.survey.totalScreens = schema.screens.length := rfl
  have repeated : schema.survey.duplicateIds = [] ↔ (schema.counts.map Prod.fst).Nodup := by
    rw [ids]
    exact duplicateIds_eq_nil_iff
  rw [Report.ShowsLimits, ne_eq, ne_eq, oversizedScreens_eq_nil_iff, repeated, Layout.fits_iff,
    screens, ← length, ← List.length_pos_iff]
  constructor
  · rintro (none | many | large | again) ⟨some, few, sound⟩
    · omega
    · omega
    · exact large sound.components
    · exact again sound.distinct
  · intro unfit
    by_contra shown
    simp only [not_or, not_not, Nat.not_lt] at shown
    exact unfit ⟨shown.1, shown.2.1, shown.2.2.2, shown.2.2.1⟩

theorem showsLimits_analyze_iff (analyzed : schema.analyze = .ok report) :
    report.ShowsLimits ↔ schema.survey.ShowsLimits := by
  rcases analyze_eq_ok_iff.mp analyzed with ⟨-, rfl⟩
  rw [Report.foldl_addWarning_eq]
  rfl

theorem fails_iff : (∃ fault, Layout.check schema.sizes = .error fault) ↔
    ¬ Layout.Fits schema.counts := by
  rw [← Layout.check_eq_ok_iff, ← sizes_eq]
  cases Layout.check schema.sizes <;> simp

/-- The check of a layout ends with the verdict on it, whether the layout is given as a list or as
one value, and an analysis of a form shows whether its layout passes. -/
theorem layout_outcomes :
    (∀ sizes outcome, Layout.check (Layout.ofSizes sizes) = outcome ↔
        Layout.Verdict sizes outcome) ∧
      (∀ sizes, Layout.checkValue (Layout.valueOf sizes) =
        Layout.check (Layout.ofSizes sizes)) ∧
      ∀ (schema : Schema) (report : Report), schema.analyze = .ok report →
        ((∃ fault, Layout.check schema.sizes = .error fault) ↔ report.ShowsLimits) := by
  refine ⟨fun _ _ => Layout.check_eq_iff_verdict, Layout.checkValue_valueOf,
    fun schema report analyzed => ?_⟩
  rw [fails_iff, showsLimits_analyze_iff analyzed, showsLimits_survey_iff]

/-- A form with an id that comes again and a screen with too many components before it. -/
def crowded : Schema where
  screens := [
    ⟨"a", .text "", []⟩,
    ⟨"b", .text "", List.replicate (maxComponents + 1) (.static .caption .null .null)⟩,
    ⟨"a", .text "", []⟩]

theorem crowded_layout :
    Layout.Verdict [("a", 0), ("b", 9), ("a", 0)]
        (reject (.tooManyComponents (.int maxComponents) (.int 9) (.text "b"))) ∧
      ∃ report, crowded.analyze = .ok report ∧ report.ShowsLimits := by
  have refused : Layout.check (Layout.ofSizes [("a", 0), ("b", 9), ("a", 0)]) =
      reject (.tooManyComponents (.int maxComponents) (.int 9) (.text "b")) := by decide +kernel
  have succeeds : ∃ report, crowded.analyze = .ok report := by
    have analyzed : crowded.analyze.map Report.duplicateIds = .ok ["a"] := by decide +kernel
    rcases map_eq_ok.mp analyzed with ⟨report, analyzed, -⟩
    exact ⟨report, analyzed⟩
  rcases succeeds with ⟨report, analyzed⟩
  refine ⟨(layout_outcomes.1 _ _).mp refused, report, analyzed, ?_⟩
  exact (layout_outcomes.2.2 crowded report analyzed).mp ⟨_, refused⟩

end Schema

end ScreenFlow
