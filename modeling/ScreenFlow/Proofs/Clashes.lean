import ScreenFlow.Proofs.Assembly

namespace ScreenFlow

/-! How keys can be the same. Whatever a component is called by, its key or the word for a component
without one, ends with its position, so on one screen no two are the same; on two screens keys are
the same only if the screens and the names differ and what is in front of the positions does not. -/

namespace Naming

variable {screen screen' name name' : Text} {position position' : Nat}

theorem qualifiedName_text (screen name : Text) (position : Nat) :
    qualifiedName (.text screen) (.int position) (.text name) =
      .ok (joinKey screen name (toString position)) := rfl

theorem parts_of_joinKey_eq
    (equal : joinKey screen name (toString position) =
      joinKey screen' name' (toString position')) :
    position = position' ∧ (screen = screen' ↔ underscored name = underscored name') := by
  rcases joinKey_eq_iff.mp equal with ⟨front, rfl⟩
  -- What is in front of the position shows one of its parts once the other is taken away.
  refine ⟨rfl, ?_, ?_⟩
  · rintro rfl
    rwa [Text.append_right_inj] at front
  · intro same
    rwa [same, Text.append_left_inj, Text.append_left_inj] at front

theorem toList_placeholderName (position : Nat) :
    (placeholderName (.int position)).toList =
      (Text.ofString "unnamed").toList ++
        .char '_' :: (Text.ofString (toString position)).toList := by
  rw [placeholderName, display_position, Text.toList_append]
  rfl

theorem joinKey_ne_placeholderName (screen name : Text) (position position' : Nat) :
    joinKey screen name (toString position) ≠ placeholderName (.int position') := by
  intro equal
  rw [← Text.toList_inj, toList_joinKey, toList_placeholderName] at equal
  have front := (eq_of_append_mark (mark_not_mem_position position)
    (mark_not_mem_position position') equal).1
  -- In front of the position a key has another mark, and the other word has none.
  have marked : .char '_' ∈ (screen ++ "_" ++ underscored name).toList := by simp
  rw [front] at marked
  exact absurd marked (by decide)

end Naming

/-! ## Components of a screen -/

namespace Placed

/-- The key of a component, or the word for its position if it has none. -/
def word (placed : Placed) : Text :=
  placed.key?.getD (Naming.placeholderName (.int placed.position))

variable {placed : Placed}

theorem key_of_nameable (nameable : placed.component.Nameable) :
    placed.component.key (.text placed.screen) (.int placed.position) = .ok placed.word := by
  have bound : placed.component.boundKey? (.text placed.screen) (.int placed.position) =
      .ok placed.key? := boundKey?_of_nameable nameable
  rw [Component.key, bound, word]
  cases placed.key? <;> rfl

theorem exists_toList_word (placed : Placed) :
    ∃ front, placed.word.toList =
      front ++ .char '_' :: (Text.ofString (toString placed.position)).toList := by
  rw [word]
  cases keyed : placed.key? with
  | none => exact ⟨_, Naming.toList_placeholderName placed.position⟩
  | some key =>
      rcases key?_eq_some keyed with ⟨name, -, rfl⟩
      exact ⟨_, Naming.toList_joinKey placed.screen name _⟩

theorem position_of_word_eq {other : Placed} (equal : placed.word = other.word) :
    placed.position = other.position := by
  rcases placed.exists_toList_word with ⟨front, ends⟩
  rcases other.exists_toList_word with ⟨front', ends'⟩
  rw [← Text.toList_inj, ends, ends'] at equal
  have digits := (Naming.eq_of_append_mark (Naming.mark_not_mem_position placed.position)
    (Naming.mark_not_mem_position other.position) equal).2
  exact Nat.repr_injective (Text.ofString_inj.mp (Text.toList_inj.mp digits))

end Placed

theorem Screen.positions_placed (screen : Screen) :
    screen.placed.map Placed.position = List.range screen.components.length := by
  rw [placed, Sequence.indexed_eq_zipIdx, List.map_map, List.map_map, List.range_eq_range',
    ← List.zipIdx_map_snd]
  rfl

theorem Screen.distinct_words (screen : Screen) : (screen.placed.map Placed.word).Nodup := by
  have places : (screen.placed.map Placed.position).Nodup := by
    rw [positions_placed]
    exact List.nodup_range
  refine (places.of_map _).map_on fun placed member other member' equal => ?_
  exact List.inj_on_of_nodup_map places member member' (Placed.position_of_word_eq equal)

/-! ## Keys of a form -/

namespace Naming

/-- Keys are told apart by their positions, and at the same position by the screen or by the name,
unless both differ; the word for a component without a key is never a key. -/
structure Separation : Prop where
  clash : ∀ {screen screen' name name' : Text} {position position' : Nat},
    qualifiedName (.text screen) (.int position) (.text name) =
        qualifiedName (.text screen') (.int position') (.text name') →
      position = position' ∧
        (screen = screen' ↔ sanitize (.text name) = sanitize (.text name'))
  positions : ∀ {position position' : Nat}, position ≠ position' →
    ∀ screen screen' name name' : Text,
      qualifiedName (.text screen) (.int position) (.text name) ≠
        qualifiedName (.text screen') (.int position') (.text name')
  screens : ∀ {screen screen' : Text}, screen ≠ screen' →
    ∀ (name : Text) (position position' : Nat),
      qualifiedName (.text screen) (.int position) (.text name) ≠
        qualifiedName (.text screen') (.int position') (.text name)
  placeholders : ∀ (screen name : Text) (position position' : Nat),
    qualifiedName (.text screen) (.int position) (.text name) ≠
      .ok (placeholderName (.int position'))
  components : ∀ screen : Screen, (∀ placed ∈ screen.placed, placed.component.Nameable) →
    ∃ words, (screen.placed.mapM fun placed =>
        placed.component.key (.text placed.screen) (.int placed.position)) = .ok words ∧
      words.length = screen.components.length ∧ words.Nodup

/-- Keys can be the same in one way only, and on one screen in none. -/
theorem separation : Separation where
  clash equal := by
    rw [qualifiedName_text, qualifiedName_text, Except.ok.injEq] at equal
    simpa [sanitize] using parts_of_joinKey_eq equal
  positions apart screen screen' name name' equal := by
    rw [qualifiedName_text, qualifiedName_text, Except.ok.injEq] at equal
    exact apart (parts_of_joinKey_eq equal).1
  screens apart name position position' equal := by
    rw [qualifiedName_text, qualifiedName_text, Except.ok.injEq] at equal
    exact apart ((parts_of_joinKey_eq equal).2.mpr rfl)
  placeholders screen name position position' equal := by
    rw [qualifiedName_text, Except.ok.injEq] at equal
    exact joinKey_ne_placeholderName screen name position position' equal
  components screen nameable := by
    refine ⟨screen.placed.map Placed.word, Outcome.mapM_eq_ok_iff.mpr ?_, ?_, ?_⟩
    · rw [List.forall₂_map_right_iff, List.forall₂_same]
      exact fun placed member => Placed.key_of_nameable (nameable placed member)
    · rw [List.length_map, ← List.length_map Placed.position, Screen.positions_placed,
        List.length_range]
    · exact screen.distinct_words

theorem separation_of_overlap :
    qualifiedName (.text "a_b") (.int (0 : Nat)) (.text "c") =
        qualifiedName (.text "a") (.int (0 : Nat)) (.text "b_c") ∧
      (("a_b" : Text) = "a" ↔ sanitize (.text "c") = sanitize (.text "b_c")) := by
  have equal : qualifiedName (.text "a_b") (.int (0 : Nat)) (.text "c") =
      qualifiedName (.text "a") (.int (0 : Nat)) (.text "b_c") := by decide +kernel
  exact ⟨equal, (separation.clash equal).2⟩

end Naming

end ScreenFlow
