import Mathlib.Data.List.Enum
import ScreenFlow.Proofs.Naming
import ScreenFlow.Proofs.Outcome
import ScreenFlow.Schema.Limits

namespace ScreenFlow

/-! Keys of the components of a form. A component with a text for a name has a key; the check of all
keys goes through the components in order and stops at the first that has no key it should have, or
one that was there before. -/

/-! ## Places -/

namespace Sequence

theorem indexedFrom_eq_zipIdx (start : Nat) (elements : List α) :
    indexed.indexedFrom start elements = (elements.zipIdx start).map Prod.swap := by
  induction elements generalizing start with
  | nil => rfl
  | cons element rest induction => simp [indexed.indexedFrom, induction]

theorem indexed_eq_zipIdx (elements : List α) :
    indexed elements = elements.zipIdx.map Prod.swap :=
  indexedFrom_eq_zipIdx 0 elements

theorem mem_indexed_iff {elements : List α} {position : Nat} {element : α} :
    (position, element) ∈ indexed elements ↔ elements[position]? = some element := by
  rw [indexed_eq_zipIdx, ← List.mk_mem_zipIdx_iff_getElem?, List.mem_map]
  constructor
  · intro given
    rcases given with ⟨⟨found, place⟩, member, equal⟩
    rcases Prod.mk.inj equal with ⟨rfl, rfl⟩
    exact member
  · exact fun member => ⟨(element, position), member, rfl⟩

@[simp] theorem map_snd_indexed (elements : List α) :
    (indexed elements).map Prod.snd = elements := by
  rw [indexed_eq_zipIdx, List.map_map]
  exact List.zipIdx_map_fst 0 elements

theorem snd_mem_of_mem_indexed {elements : List α} {entry : Nat × α}
    (member : entry ∈ indexed elements) : entry.2 ∈ elements := by
  rw [← map_snd_indexed elements]
  exact List.mem_map_of_mem member

theorem getElem?_indexed (elements : List α) (position : Nat) :
    (indexed elements)[position]? = elements[position]?.map fun element => (position, element) := by
  rw [indexed_eq_zipIdx, List.getElem?_map, List.getElem?_zipIdx, Option.map_map]
  simp [Function.comp_def]

theorem indexed_map (transform : α → β) (elements : List α) :
    indexed (elements.map transform) =
      (indexed elements).map fun entry => (entry.1, transform entry.2) := by
  rw [indexed_eq_zipIdx, indexed_eq_zipIdx, List.zipIdx_map, List.map_map, List.map_map]
  rfl

end Sequence

/-! ## Keys -/

namespace Component

def Nameable (component : Component) : Prop :=
  ∃ name, component.name? = some name ∧ (name.isGiven → ∃ content, name = .text content)

end Component

namespace Placed

def key? (placed : Placed) : Option Text :=
  match placed.component.name? with
  | some (.text name) =>
      if name = "" then none
      else some (Naming.joinKey placed.screen name (toString placed.position))
  | _ => none

def entry? (placed : Placed) : Option (Text × Component) :=
  placed.key?.map fun key => (key, placed.component)

theorem key?_of_text {placed : Placed} {name : Text}
    (named : placed.component.name? = some (.text name)) (given : name ≠ "") :
    placed.key? = some (Naming.joinKey placed.screen name (toString placed.position)) := by
  rw [key?, named]
  exact if_neg given

theorem key?_eq_some {placed : Placed} {key : Text} (keyed : placed.key? = some key) :
    ∃ name, placed.component.name? = some (.text name) ∧
      key = Naming.joinKey placed.screen name (toString placed.position) := by
  rw [key?] at keyed
  split at keyed
  · next name named =>
      split at keyed
      · cases keyed
      · exact ⟨name, named, (Option.some.inj keyed).symm⟩
  · cases keyed

theorem boundKey?_of_not_given {placed : Placed} {name : Value}
    (named : placed.component.name? = some name) (given : name.isGiven = false) :
    placed.boundKey? = .ok none := by
  simp [boundKey?, Component.boundKey?, Component.boundName?, named, given, bind, Except.bind,
    pure, Except.pure]

theorem boundKey?_of_given {placed : Placed} {name : Value}
    (named : placed.component.name? = some name) (given : name.isGiven = true) :
    placed.boundKey? =
      (Naming.qualifiedName (.text placed.screen) (.int placed.position) name).map some := by
  cases keyed : Naming.qualifiedName (.text placed.screen) (.int placed.position) name <;>
    simp [boundKey?, Component.boundKey?, Component.boundName?, named, given, keyed, bind,
      Except.bind, pure, Except.pure, Except.map]

theorem boundKey?_eq_ok_iff {placed : Placed} {key : Option Text} :
    placed.boundKey? = .ok key ↔ placed.component.Nameable ∧ placed.key? = key := by
  cases named : placed.component.name? with
  | none =>
      have failed : placed.boundKey? = .error .missingPart := by
        simp [boundKey?, Component.boundKey?, Component.boundName?, named, bind, Except.bind]
      simp [failed, Component.Nameable, named]
  | some name =>
      cases given : name.isGiven with
      | false =>
          have unnamed : placed.key? = none := by
            cases name <;> simp_all [key?, Value.isGiven]
          simp [boundKey?_of_not_given named given, Component.Nameable, named, given, unnamed]
      | true =>
          rw [boundKey?_of_given named given]
          cases name with
          | text content =>
              have notEmpty : content ≠ "" := by simpa [Value.isGiven] using given
              rw [key?_of_text named notEmpty]
              simp [Naming.qualifiedName, Component.Nameable, named, Except.map]
          | _ => simp [Naming.qualifiedName, Component.Nameable, named, given, Except.map]

theorem boundKey?_of_nameable {placed : Placed} (nameable : placed.component.Nameable) :
    placed.boundKey? = .ok placed.key? :=
  boundKey?_eq_ok_iff.mpr ⟨nameable, rfl⟩

theorem boundKey?_eq_error {placed : Placed} (unnameable : ¬ placed.component.Nameable) :
    placed.boundKey? = .error .wrongKind ∨ placed.boundKey? = .error .missingPart := by
  cases named : placed.component.name? with
  | none =>
      right
      simp [boundKey?, Component.boundKey?, Component.boundName?, named, bind, Except.bind]
  | some name =>
      left
      simp only [Component.Nameable, named, Option.some.injEq, exists_eq_left', Classical.not_imp,
        not_exists] at unnameable
      rw [boundKey?_of_given named unnameable.1]
      cases name with
      | text content => exact absurd rfl (unnameable.2 content)
      | _ => rfl

theorem unrejected_boundKey? (placed : Placed) : Outcome.Unrejected placed.boundKey? := by
  by_cases nameable : placed.component.Nameable
  · rw [boundKey?_of_nameable nameable]
    exact Outcome.unrejected_ok _
  · rcases boundKey?_eq_error nameable with failed | failed <;>
      exact failed ▸ Outcome.unrejected_error (by simp)

end Placed

namespace Screen

theorem collect_eq_ok_iff {placeds : List Placed} {entries : List (Text × Component)} :
    bound.collect placeds = .ok entries ↔
      (∀ placed ∈ placeds, placed.component.Nameable) ∧
        placeds.filterMap Placed.entry? = entries := by
  induction placeds generalizing entries with
  | nil => simp [bound.collect, Outcome.pure_eq_ok]
  | cons placed placeds induction =>
      rw [bound.collect, Outcome.bind_eq_ok]
      simp only [Placed.boundKey?_eq_ok_iff, List.forall_mem_cons, List.filterMap_cons]
      cases keyed : placed.key? with
      | none => simp [Placed.entry?, keyed, induction, and_assoc]
      | some key =>
          simp [Placed.entry?, keyed, Outcome.functor_map_eq, Outcome.map_eq_ok, induction,
            and_assoc]

end Screen

/-! ## The check of all keys -/

namespace Schema

variable {seen : List Text} {placed : Placed} {placeds : List Placed} {key : Text}

theorem checkKeys_nil : checkKeys seen [] = .ok () := rfl

theorem checkKeys_of_error {fault : Fault} (failed : placed.boundKey? = .error fault) :
    checkKeys seen (placed :: placeds) = .error fault := by
  simp [checkKeys, failed, bind, Except.bind]

theorem checkKeys_of_unbound (unbound : placed.boundKey? = .ok none) :
    checkKeys seen (placed :: placeds) = checkKeys seen placeds := by
  simp [checkKeys, unbound, bind, Except.bind]

theorem checkKeys_of_seen (keyed : placed.boundKey? = .ok (some key)) (repeated : key ∈ seen) :
    checkKeys seen (placed :: placeds) =
      reject (.repeatedName (.text key) (.text placed.screen)) := by
  simp [checkKeys, keyed, repeated, bind, Except.bind]

theorem checkKeys_of_fresh (keyed : placed.boundKey? = .ok (some key)) (fresh : key ∉ seen) :
    checkKeys seen (placed :: placeds) = checkKeys (key :: seen) placeds := by
  simp [checkKeys, keyed, fresh, bind, Except.bind]

theorem checkKeys_eq_ok_iff :
    checkKeys seen placeds = .ok () ↔
      (∀ placed ∈ placeds, placed.component.Nameable) ∧
        (placeds.filterMap Placed.key?).Nodup ∧
        ∀ key ∈ placeds.filterMap Placed.key?, key ∉ seen := by
  -- The keys seen grow along the list, so the induction is for any of them.
  induction placeds generalizing seen with
  | nil => simp [checkKeys_nil]
  | cons placed placeds induction =>
      rw [List.forall_mem_cons]
      by_cases nameable : placed.component.Nameable
      · cases keyed : placed.key? with
        | none =>
            rw [checkKeys_of_unbound (Placed.boundKey?_eq_ok_iff.mpr ⟨nameable, keyed⟩),
              List.filterMap_cons_none keyed, induction]
            simp [nameable]
        | some key =>
            have bound := Placed.boundKey?_eq_ok_iff.mpr ⟨nameable, keyed⟩
            rw [List.filterMap_cons_some keyed]
            by_cases repeated : key ∈ seen
            · rw [checkKeys_of_seen bound repeated]
              simp [reject, repeated]
            · rw [checkKeys_of_fresh bound repeated, induction]
              simp only [List.nodup_cons, List.mem_cons, not_or]
              grind
      · rcases Placed.boundKey?_eq_error nameable with failed | failed <;>
          simp [checkKeys_of_error failed, nameable]

theorem checkKeys_eq_error_iff {fault : Fault} :
    checkKeys seen placeds = .error fault ↔
      ∃ before placed after, placeds = before ++ placed :: after ∧
        checkKeys seen before = .ok () ∧
        (placed.boundKey? = .error fault ∨
          ∃ key, placed.boundKey? = .ok (some key) ∧
            (key ∈ seen ∨ key ∈ before.filterMap Placed.key?) ∧
            fault = .rejected (.repeatedName (.text key) (.text placed.screen))) := by
  induction placeds generalizing seen with
  | nil => simp [checkKeys_nil]
  | cons placed placeds induction =>
      rw [Outcome.exists_split_cons]
      cases bound : placed.boundKey? with
      | error failure => simp [checkKeys_of_error bound, checkKeys_nil]
      | ok key? =>
          have keyed := (Placed.boundKey?_eq_ok_iff.mp bound).2
          cases key? with
          | none =>
              simp [checkKeys_of_unbound bound, induction, checkKeys_nil,
                List.filterMap_cons_none keyed]
          | some key =>
              by_cases repeated : key ∈ seen
              · simp [checkKeys_of_seen bound repeated, checkKeys_nil, reject, repeated, eq_comm]
              · have later (old : Text) (before : List Placed) :
                    (old ∈ key :: seen ∨ old ∈ before.filterMap Placed.key?) ↔
                      (old ∈ seen ∨ old ∈ (placed :: before).filterMap Placed.key?) := by
                  rw [List.filterMap_cons_some keyed, List.mem_cons, List.mem_cons]
                  tauto
                simp only [checkKeys_of_fresh bound repeated, induction, later]
                refine (or_iff_right ?_).symm
                simp [repeated]

end Schema

end ScreenFlow
