import Mathlib.Data.List.Induction
import Mathlib.Data.List.Nodup
import Mathlib.Tactic.SplitIfs
import ScreenFlow.Proofs.Outcome
import ScreenFlow.Schema.Limits

namespace ScreenFlow.Layout

/-! The limits on screens, as far as the ids are texts and the sizes are counts. Then the check does
nothing but pass or refuse, and it passes exactly the layouts within the limits. -/

def ofCounts (counts : List (Text × Nat)) : List (Value × Value) :=
  counts.map fun (id, count) => (.text id, .int count)

structure Sound (counts : List (Text × Nat)) : Prop where
  distinct : (counts.map Prod.fst).Nodup
  components : ∀ entry ∈ counts, entry.2 ≤ maxComponents

/-- Why a layout is refused for the first screen that keeps it from being sound: the id is that of an
earlier screen, or else the components are too many. -/
inductive FirstDefect (counts : List (Text × Nat)) : Rejection → Prop where
  | repeated {before after : List (Text × Nat)} {id : Text} {count : Nat}
      (split : counts = before ++ (id, count) :: after) (sound : Sound before)
      (again : id ∈ before.map Prod.fst) : FirstDefect counts (.repeatedScreen (.text id))
  | large {before after : List (Text × Nat)} {id : Text} {count : Nat}
      (split : counts = before ++ (id, count) :: after) (sound : Sound before)
      (fresh : id ∉ before.map Prod.fst) (large : maxComponents < count) :
      FirstDefect counts (.tooManyComponents (.int maxComponents) (.int count) (.text id))

structure Fits (counts : List (Text × Nat)) : Prop where
  nonempty : counts ≠ []
  screens : counts.length ≤ maxScreens
  distinct : (counts.map Prod.fst).Nodup
  components : ∀ entry ∈ counts, entry.2 ≤ maxComponents

theorem checkScreenCount_int (count : Nat) :
    checkScreenCount (.int count) =
      if count = 0 then reject .noScreens
      else if maxScreens < count then reject (.tooManyScreens (.int maxScreens) (.int count))
      else .ok () := by
  have counted : (Value.int count).same (.int 0) = decide (count = 0) := by
    rw [Bool.eq_iff_iff]
    simp [Value.same, Value.sameGiven, Value.samePlain, Value.whole?]
  by_cases none : count = 0 <;> by_cases many : maxScreens < count <;>
    simp_all [checkScreenCount, exceeds, Value.whole?, bind, Except.bind, pure, Except.pure]

theorem checkComponentCount_int (screen : Value) (count : Nat) :
    checkComponentCount screen (.int count) =
      if maxComponents < count then
        reject (.tooManyComponents (.int maxComponents) (.int count) screen)
      else .ok () := by
  by_cases many : maxComponents < count <;>
    simp_all [checkComponentCount, exceeds, Value.whole?, bind, Except.bind, pure, Except.pure]

theorem any_same_text (seen : List Text) (id : Text) :
    (seen.map Value.text).any (Value.text id).same = seen.contains id := by
  induction seen with
  | nil => rfl
  | cons head seen induction =>
      simp [induction, Value.same_text, beq_eq_decide]

theorem checkScreens_cons (seen : List Text) (id : Text) (count : Nat)
    (counts : List (Text × Nat)) :
    checkScreens (seen.map Value.text) (ofCounts ((id, count) :: counts)) =
      if id ∈ seen then reject (.repeatedScreen (.text id))
      else if maxComponents < count then
        reject (.tooManyComponents (.int maxComponents) (.int count) (.text id))
      else checkScreens ((id :: seen).map Value.text) (ofCounts counts) := by
  rw [ofCounts, List.map_cons, checkScreens, any_same_text, checkComponentCount_int]
  by_cases repeated : id ∈ seen
  · simp [repeated, Value.isKey]
  · by_cases many : maxComponents < count <;>
      simp [repeated, many, Value.isKey, reject, ofCounts, bind, Except.bind]

theorem checkScreens_eq_ok_iff {seen : List Text} {counts : List (Text × Nat)} :
    checkScreens (seen.map Value.text) (ofCounts counts) = .ok () ↔
      (counts.map Prod.fst).Nodup ∧ (∀ entry ∈ counts, entry.1 ∉ seen) ∧
        ∀ entry ∈ counts, entry.2 ≤ maxComponents := by
  induction counts generalizing seen with
  | nil => simp [ofCounts, checkScreens]
  | cons entry counts induction =>
      rcases entry with ⟨id, count⟩
      rw [checkScreens_cons]
      by_cases repeated : id ∈ seen
      · rw [if_pos repeated]
        exact iff_of_false (by simp [reject]) fun fits => fits.2.1 _ List.mem_cons_self repeated
      · by_cases many : maxComponents < count
        · rw [if_neg repeated, if_pos many]
          exact iff_of_false (by simp [reject]) fun fits =>
            absurd (fits.2.2 _ List.mem_cons_self) (Nat.not_le.mpr many)
        · rw [if_neg repeated, if_neg many, induction]
          simp only [List.map_cons, List.nodup_cons, List.mem_map, List.mem_cons, not_or]
          grind

theorem check_eq_ok_iff {counts : List (Text × Nat)} :
    check (ofCounts counts) = .ok () ↔ Fits counts := by
  have sized : (ofCounts counts).length = counts.length := by simp [ofCounts]
  rw [check, Outcome.bind_eq_ok, sized, checkScreenCount_int]
  have passes := @checkScreens_eq_ok_iff [] counts
  rw [List.map_nil] at passes
  simp only [passes]
  constructor
  · intro given
    rcases given with ⟨⟨⟩, counted, distinct, -, components⟩
    split_ifs at counted with none many
    · simp [reject] at counted
    · simp [reject] at counted
    · exact ⟨by simpa using none, Nat.not_lt.mp many, distinct, components⟩
  · intro fits
    have some : counts.length ≠ 0 := by simpa using fits.nonempty
    have few := fits.screens
    exact ⟨(), by rw [if_neg some, if_neg (by omega)], fits.distinct, by simp, fits.components⟩

/-! ## Layouts that do not fit -/

theorem fits_iff {counts : List (Text × Nat)} :
    Fits counts ↔ counts ≠ [] ∧ counts.length ≤ maxScreens ∧ Sound counts :=
  ⟨fun fits => ⟨fits.nonempty, fits.screens, fits.distinct, fits.components⟩,
    fun given => ⟨given.1, given.2.1, given.2.2.distinct, given.2.2.components⟩⟩

theorem checkScreens_append {seen : List Text} {before after : List (Text × Nat)}
    (sound : Sound before) (fresh : ∀ entry ∈ before, entry.1 ∉ seen) :
    checkScreens (seen.map Value.text) (ofCounts (before ++ after)) =
      checkScreens (((before.map Prod.fst).reverse ++ seen).map Value.text) (ofCounts after) := by
  induction before generalizing seen with
  | nil => rfl
  | cons entry before induction =>
      rcases entry with ⟨id, count⟩
      rcases sound with ⟨distinct, components⟩
      rw [List.map_cons, List.nodup_cons] at distinct
      rw [List.forall_mem_cons] at fresh components
      have later : ∀ entry ∈ before, entry.1 ∉ id :: seen := by
        intro entry member again
        rcases List.mem_cons.mp again with same | again
        · exact distinct.1 (List.mem_map.mpr ⟨entry, member, same⟩)
        · exact fresh.2 entry member again
      rw [List.cons_append, checkScreens_cons, if_neg fresh.1,
        if_neg (Nat.not_lt.mpr components.1), induction ⟨distinct.2, components.2⟩ later]
      simp

theorem checkScreens_of_firstDefect {counts : List (Text × Nat)} {rejection : Rejection}
    (defect : FirstDefect counts rejection) :
    checkScreens [] (ofCounts counts) = reject rejection := by
  have passed {before : List (Text × Nat)} (sound : Sound before) (entry : Text × Nat)
      (after : List (Text × Nat)) :=
    @checkScreens_append [] before (entry :: after) sound (by simp)
  simp only [List.map_nil, List.append_nil] at passed
  cases defect with
  | repeated split sound again =>
      rw [split, passed sound, checkScreens_cons, if_pos (List.mem_reverse.mpr again)]
  | large split sound fresh large =>
      rw [split, passed sound, checkScreens_cons, if_neg (mt List.mem_reverse.mp fresh),
        if_pos large]

theorem FirstDefect.append {counts : List (Text × Nat)} {rejection : Rejection}
    (defect : FirstDefect counts rejection) (more : List (Text × Nat)) :
    FirstDefect (counts ++ more) rejection := by
  have longer {before after : List (Text × Nat)} {entry : Text × Nat}
      (split : counts = before ++ entry :: after) :
      counts ++ more = before ++ entry :: (after ++ more) := by
    simp [split]
  cases defect with
  | repeated split sound again => exact .repeated (longer split) sound again
  | large split sound fresh large => exact .large (longer split) sound fresh large

theorem FirstDefect.ne_nil {counts : List (Text × Nat)} {rejection : Rejection}
    (defect : FirstDefect counts rejection) : counts ≠ [] := by
  cases defect with
  | repeated split => simp [split]
  | large split => simp [split]

theorem sound_or_firstDefect (counts : List (Text × Nat)) :
    Sound counts ∨ ∃ rejection, FirstDefect counts rejection := by
  induction counts using List.reverseRecOn with
  | nil => exact .inl ⟨List.nodup_nil, by simp⟩
  | append_singleton before entry induction =>
      rcases induction with sound | ⟨rejection, defect⟩
      · by_cases again : entry.1 ∈ before.map Prod.fst
        · exact .inr ⟨_, .repeated rfl sound again⟩
        · by_cases large : maxComponents < entry.2
          · exact .inr ⟨_, .large rfl sound again large⟩
          · refine .inl ⟨?_, ?_⟩
            · rw [List.map_append, List.map_cons, List.map_nil, ← List.concat_eq_append,
                List.nodup_concat]
              exact ⟨again, sound.distinct⟩
            · rw [List.forall_mem_append, List.forall_mem_singleton]
              exact ⟨sound.components, Nat.not_lt.mp large⟩
      · exact .inr ⟨rejection, defect.append [entry]⟩

theorem check_eq_error {counts : List (Text × Nat)} {fault : Fault}
    (failed : check (ofCounts counts) = .error fault) :
    ∃ rejection, fault = .rejected rejection ∧
      (rejection = .noScreens ∨
        rejection = .tooManyScreens (.int maxScreens) (.int counts.length) ∨
          FirstDefect counts rejection) := by
  have sized : (ofCounts counts).length = counts.length := by simp [ofCounts]
  rw [check, Outcome.bind_eq_error, sized, checkScreenCount_int] at failed
  rcases failed with failed | ⟨-, -, failed⟩
  · split_ifs at failed
    · exact ⟨_, (Except.error.inj failed).symm, .inl rfl⟩
    · exact ⟨_, (Except.error.inj failed).symm, .inr (.inl rfl)⟩
  · rcases sound_or_firstDefect counts with sound | ⟨rejection, defect⟩
    · have passes := (@checkScreens_eq_ok_iff [] counts).mpr
        ⟨sound.distinct, by simp, sound.components⟩
      rw [List.map_nil, failed] at passes
      cases passes
    · rw [checkScreens_of_firstDefect defect] at failed
      exact ⟨rejection, (Except.error.inj failed).symm, .inr (.inr defect)⟩

theorem check_of_firstDefect {counts : List (Text × Nat)} {rejection : Rejection}
    (few : counts.length ≤ maxScreens) (defect : FirstDefect counts rejection) :
    check (ofCounts counts) = reject rejection := by
  have some : counts.length ≠ 0 := by simpa using defect.ne_nil
  have sized : (ofCounts counts).length = counts.length := by simp [ofCounts]
  rw [check, sized, checkScreenCount_int, if_neg some, if_neg (Nat.not_lt.mpr few)]
  exact checkScreens_of_firstDefect defect

theorem not_firstDefect_of_sound {counts : List (Text × Nat)} {rejection : Rejection}
    (sound : Sound counts) : ¬ FirstDefect counts rejection := by
  intro defect
  have passes := (@checkScreens_eq_ok_iff [] counts).mpr
    ⟨sound.distinct, by simp, sound.components⟩
  rw [List.map_nil, checkScreens_of_firstDefect defect] at passes
  cases passes

theorem checkScreenCount_eq_ok_iff {count : Nat} :
    checkScreenCount (.int count) = .ok () ↔ count ≠ 0 ∧ count ≤ maxScreens := by
  rw [checkScreenCount_int]
  split_ifs with none many
  · simp [reject, none]
  · simp [reject, Nat.not_le.mpr many]
  · simp [none, Nat.not_lt.mp many]

theorem not_escapes_checkScreenCount (count : Nat) :
    ¬ Outcome.Escapes (checkScreenCount (.int count)) := by
  rw [checkScreenCount_int]
  split_ifs
  · exact Outcome.not_escapes_reject _
  · exact Outcome.not_escapes_reject _
  · exact Outcome.not_escapes_ok ()

theorem not_escapes_check (counts : List (Text × Nat)) :
    ¬ Outcome.Escapes (check (ofCounts counts)) := by
  intro given
  rcases given with ⟨fault, failed, other⟩
  rcases check_eq_error failed with ⟨rejection, rfl, -⟩
  exact other rejection rfl

end ScreenFlow.Layout
