import Mathlib.Data.List.TakeWhile
import Mathlib.Tactic.SplitIfs
import ScreenFlow.Proofs.Naming

namespace ScreenFlow

/-! White space in names. Every run of white space, wherever it stands and whatever it consists of,
becomes one mark, and nothing else of a name changes. This says all about the replacement: no other
function does the same. -/

/-! ## Scanning -/

namespace Text

/-- Whether a scan is inside a run of blanks after a text, given whether it was before. -/
def endsInRun (inRun : Bool) (points : List Point) : Bool :=
  points.foldl (fun _ point => isBlank point) inRun

theorem collapseBlanks_append (inRun : Bool) (front back : List Point) :
    collapseBlanks inRun (front ++ back) =
      collapseBlanks inRun front ++ collapseBlanks (endsInRun inRun front) back := by
  induction front generalizing inRun with
  | nil => rfl
  | cons head rest induction =>
      rw [List.cons_append, collapseBlanks, collapseBlanks, endsInRun, List.foldl_cons]
      cases blank : isBlank head <;> cases inRun <;> simp [induction, endsInRun]

theorem endsInRun_of_visible {points : List Point}
    (visible : ∀ point ∈ points.getLast?, isBlank point = false) :
    endsInRun false points = false := by
  rcases List.eq_nil_or_concat points with rfl | ⟨front, last, rfl⟩
  · rfl
  · rw [endsInRun, List.concat_eq_append, List.foldl_append]
    exact visible last (by simp)

theorem endsInRun_of_blank {run : List Point} (inRun : Bool) (filled : run ≠ [])
    (blank : ∀ point ∈ run, isBlank point = true) : endsInRun inRun run = true := by
  rcases List.eq_nil_or_concat run with rfl | ⟨front, last, rfl⟩
  · exact absurd rfl filled
  · rw [endsInRun, List.concat_eq_append, List.foldl_append]
    exact blank last (by simp)

theorem collapseBlanks_inside {run : List Point}
    (blank : ∀ point ∈ run, isBlank point = true) : collapseBlanks true run = [] := by
  induction run with
  | nil => rfl
  | cons head rest induction =>
      rw [List.forall_mem_cons] at blank
      rw [collapseBlanks, if_pos blank.1, if_pos rfl, induction blank.2]

theorem collapseBlanks_run {run : List Point} (filled : run ≠ [])
    (blank : ∀ point ∈ run, isBlank point = true) :
    collapseBlanks false run = [.char '_'] := by
  cases run with
  | nil => exact absurd rfl filled
  | cons head rest =>
      rw [List.forall_mem_cons] at blank
      rw [collapseBlanks, if_pos blank.1, if_neg (by simp), collapseBlanks_inside blank.2]

theorem collapseBlanks_of_visible (inRun : Bool) {points : List Point}
    (visible : ∀ point ∈ points.head?, isBlank point = false) :
    collapseBlanks inRun points = collapseBlanks false points := by
  cases points with
  | nil => rfl
  | cons head rest =>
      have outside : isBlank head = false := visible head rfl
      simp [collapseBlanks, outside]

theorem length_collapseBlanks_le (inRun : Bool) (points : List Point) :
    (collapseBlanks inRun points).length ≤ points.length := by
  induction points generalizing inRun with
  | nil => exact Nat.le_refl _
  | cons head rest induction =>
      have inside := induction true
      have outside := induction false
      rw [collapseBlanks]
      split_ifs <;> simp only [List.length_cons] <;> omega

end Text

/-! ## Laws -/

namespace Naming

def Solid (text : Text) : Prop := ∀ point ∈ text.toList, Text.isBlank point = false

structure Gap (text : Text) : Prop where
  filled : text ≠ ""
  blank : ∀ point ∈ text.toList, Text.isBlank point = true

def BeginsSolid (text : Text) : Prop :=
  ∀ point ∈ text.toList.head?, Text.isBlank point = false

def EndsSolid (text : Text) : Prop :=
  ∀ point ∈ text.toList.getLast?, Text.isBlank point = false

/-- A replacement of gaps by marks: it changes nothing but whole gaps, each on its own. -/
structure ClosesGaps (replace : Text → Text) : Prop where
  solid : ∀ text, Solid text → replace text = text
  gap : ∀ front gap back, EndsSolid front → Gap gap → BeginsSolid back →
    replace (front ++ gap ++ back) = replace front ++ "_" ++ replace back

/-- What a text has become whose gaps are closed. -/
structure Closed (replace : Text → Text) (text : Text) : Prop where
  solid : Solid (replace text)
  empty : replace text = "" → text = ""
  length : (replace text).length ≤ text.length
  settled : replace (replace text) = replace text

theorem closesGaps_underscored : ClosesGaps underscored where
  solid text visible := by
    rw [underscored, collapseBlanks_of_not_isBlank visible, Text.ofList_toList]
  gap front gap back ends gapped begins := by
    have filled : gap.toList ≠ [] := mt Text.toList_eq_nil_iff.mp gapped.filled
    rw [← Text.toList_inj]
    simp only [underscored, Text.toList_ofList, Text.toList_append]
    rw [List.append_assoc, Text.collapseBlanks_append, Text.endsInRun_of_visible ends,
      Text.collapseBlanks_append, Text.endsInRun_of_blank false filled gapped.blank,
      Text.collapseBlanks_run filled gapped.blank, Text.collapseBlanks_of_visible true begins,
      List.append_assoc]
    rfl

theorem closed_underscored (text : Text) : Closed underscored text where
  solid := by
    intro point member
    rw [underscored, Text.toList_ofList] at member
    exact not_isBlank_of_mem_collapseBlanks member
  empty := underscored_eq_empty_iff.mp
  length := by
    rw [underscored, ← Text.length_toList, ← Text.length_toList, Text.toList_ofList]
    exact Text.length_collapseBlanks_le false text.toList
  settled := underscored_underscored text

theorem exists_gap {text : Text} (gapped : ¬ Solid text) :
    ∃ front gap back, Solid front ∧ Gap gap ∧ BeginsSolid back ∧ text = front ++ gap ++ back := by
  let visible : Point → Bool := fun point => !Text.isBlank point
  have stops : text.toList.dropWhile visible ≠ [] := by
    intro whole
    rw [List.dropWhile_eq_nil_iff] at whole
    exact gapped fun point member => by simpa [visible] using whole point member
  have stopped := List.head_dropWhile_not visible stops
  generalize tail : text.toList.dropWhile visible = rest at stops stopped
  rcases List.exists_cons_of_ne_nil stops with ⟨first, others, rfl⟩
  have blank : Text.isBlank first = true := by simpa [visible] using stopped
  refine ⟨Text.ofList (text.toList.takeWhile visible),
    Text.ofList ((first :: others).takeWhile Text.isBlank),
    Text.ofList ((first :: others).dropWhile Text.isBlank), ?_, ⟨?_, ?_⟩, ?_, ?_⟩
  · intro point member
    rw [Text.toList_ofList] at member
    simpa [visible] using List.mem_takeWhile_imp member
  · rw [ne_eq, ← Text.toList_eq_nil_iff]
    simp [blank]
  · intro point member
    rw [Text.toList_ofList] at member
    exact List.mem_takeWhile_imp member
  · intro point member
    rw [Text.toList_ofList] at member
    have ended := List.head?_dropWhile_not Text.isBlank (first :: others)
    rw [Option.mem_def.mp member] at ended
    exact ended
  · rw [← Text.toList_inj]
    simp only [Text.toList_append, List.append_assoc, List.takeWhile_append_dropWhile, ← tail]

theorem ClosesGaps.unique {replace other : Text → Text} (laws : ClosesGaps replace)
    (others : ClosesGaps other) (text : Text) : replace text = other text := by
  by_cases visible : Solid text
  · rw [laws.solid text visible, others.solid text visible]
  · rcases exists_gap visible with ⟨front, gap, back, solid, gapped, begins, whole⟩
    have ends : EndsSolid front := fun point last =>
      solid point (List.mem_of_getLast? last)
    have shorter : back.length < text.length := by
      have filled : gap.length ≠ 0 := by simpa using gapped.filled
      rw [whole, Text.length_append, Text.length_append]
      omega
    have behind := laws.unique others back
    rw [whole, laws.gap front gap back ends gapped begins,
      others.gap front gap back ends gapped begins, laws.solid front solid,
      others.solid front solid, behind]
termination_by text.length

/-- A name without white space stays as it is, a gap in it becomes one mark, and the parts around a
gap are treated alone; what comes out has no gaps, is not longer, is not empty, and would not change
again. The first two laws hold of nothing else. -/
theorem sanitize_closes_gaps :
    (∀ name, sanitize (.text name) = .ok (underscored name)) ∧ ClosesGaps underscored ∧
      (∀ name, Closed underscored name) ∧
      ∀ replace, ClosesGaps replace → replace = underscored :=
  ⟨fun _ => rfl, closesGaps_underscored, closed_underscored,
    fun _ laws => funext (laws.unique closesGaps_underscored)⟩

example : underscored "\t a \u3000b " = "_a_b_" := by decide +kernel

end Naming

end ScreenFlow
