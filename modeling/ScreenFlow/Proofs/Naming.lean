import Std.Data.String.ToNat
import ScreenFlow.Naming

namespace ScreenFlow.Naming

/-! Laws of names. A key ends with a mark and a position, and no position holds a mark, so a key
tells the position and everything in front of it. -/

@[simp] theorem display_text (content : Text) : (Value.text content).display = content := rfl

@[simp] theorem display_position (position : Nat) :
    (Value.int (position : Int)).display = (toString position : Text) := rfl

/-! ## Names without white space -/

theorem collapseBlanks_eq_nil_iff {points : List Point} :
    Text.collapseBlanks false points = [] ↔ points = [] := by
  cases points with
  | nil => simp [Text.collapseBlanks]
  | cons point rest =>
      by_cases blank : Text.isBlank point <;> simp [Text.collapseBlanks, blank]

theorem underscored_eq_empty_iff {name : Text} : underscored name = "" ↔ name = "" := by
  rw [underscored, ← Text.toList_inj, ← Text.toList_inj]
  exact collapseBlanks_eq_nil_iff

theorem not_isBlank_of_mem_collapseBlanks {inRun : Bool} {points : List Point} {point : Point}
    (member : point ∈ Text.collapseBlanks inRun points) :
    Text.isBlank point = false := by
  induction points generalizing inRun with
  | nil => simp [Text.collapseBlanks] at member
  | cons head rest induction =>
      rw [Text.collapseBlanks] at member
      split at member
      · split at member
        · exact induction member
        · rcases List.mem_cons.mp member with rfl | later
          · decide
          · exact induction later
      · next visible =>
          rcases List.mem_cons.mp member with rfl | later
          · exact Bool.eq_false_iff.mpr visible
          · exact induction later

theorem collapseBlanks_of_not_isBlank {points : List Point}
    (visible : ∀ point ∈ points, Text.isBlank point = false) :
    Text.collapseBlanks false points = points := by
  induction points with
  | nil => rfl
  | cons head rest induction =>
      rw [List.forall_mem_cons] at visible
      simp [Text.collapseBlanks, visible.1, induction visible.2]

theorem underscored_underscored (name : Text) :
    underscored (underscored name) = underscored name := by
  rw [underscored, underscored, Text.toList_ofList, collapseBlanks_of_not_isBlank]
  exact fun point => not_isBlank_of_mem_collapseBlanks

/-! ## Keys -/

theorem mark_not_mem_position (position : Nat) :
    .char '_' ∉ (Text.ofString (toString position)).toList := by
  rw [Text.char_mem_ofString, Nat.toString_eq_repr, Nat.toList_repr]
  exact Nat.underscore_not_in_toDigits

theorem eq_of_append_mark {α : Type} {mark : α} {front front' back back' : List α}
    (clean : mark ∉ back) (clean' : mark ∉ back')
    (equal : front ++ mark :: back = front' ++ mark :: back') :
    front = front' ∧ back = back' := by
  rcases List.append_eq_append_iff.mp equal with ⟨between, rfl, rest⟩ | ⟨between, rfl, rest⟩
  · cases between with
    | nil => exact ⟨by simp, by simpa using rest⟩
    | cons head between =>
        rcases List.cons.inj rest with ⟨-, rfl⟩
        exact absurd (by simp) clean
  · cases between with
    | nil => exact ⟨by simp, by simpa using rest.symm⟩
    | cons head between =>
        rcases List.cons.inj rest with ⟨-, rfl⟩
        exact absurd (by simp) clean'

theorem toList_joinKey (screen name position : Text) :
    (joinKey screen name position).toList =
      (screen ++ "_" ++ underscored name).toList ++ .char '_' :: position.toList := by
  simp [joinKey, Text.toList_ofString]

theorem joinKey_underscored (screen name position : Text) :
    joinKey screen (underscored name) position = joinKey screen name position := by
  rw [joinKey, joinKey, underscored_underscored]

theorem joinKey_eq_iff {screen screen' name name' : Text} {position position' : Nat} :
    joinKey screen name (toString position : String) =
        joinKey screen' name' (toString position' : String) ↔
      screen ++ "_" ++ underscored name = screen' ++ "_" ++ underscored name' ∧
        position = position' := by
  constructor
  · intro equal
    rw [← Text.toList_inj, toList_joinKey, toList_joinKey] at equal
    have parts := eq_of_append_mark (mark_not_mem_position position)
      (mark_not_mem_position position') equal
    refine ⟨Text.toList_inj.mp parts.1, Nat.repr_injective ?_⟩
    exact Text.ofString_inj.mp (Text.toList_inj.mp parts.2)
  · intro given
    rcases given with ⟨equal, rfl⟩
    rw [joinKey, joinKey, equal]

theorem qualifiedName_eq_ok_iff {screen position name : Value} {key : Text} :
    qualifiedName screen position name = .ok key ↔
      ∃ content, name = .text content ∧ joinKey screen.display content position.display = key := by
  cases name <;> simp [qualifiedName]

theorem joinKey_eq_iff_of_screen {screen name name' : Text} {position position' : Nat} :
    joinKey screen name (toString position) = joinKey screen name' (toString position') ↔
      underscored name = underscored name' ∧ position = position' := by
  rw [joinKey_eq_iff, Text.append_right_inj]

end ScreenFlow.Naming
