import ScreenFlow.Proofs.Labels

namespace ScreenFlow

/-! The one thing that keeps a form from being compiled after it was read. If names and labels are
texts, everything succeeds but the check of the keys, which stops at the first component whose key
was there before. -/

/-! ## Repeated keys -/

namespace Placed

/-- The component at a place has a key that one before it has already. -/
def Repeated (placeds : List Placed) (place : Nat) (placed : Placed) (key : Text) : Prop :=
  placeds[place]? = some placed ∧ placed.boundKey? = .ok (some key) ∧
    ∃ earlier other, earlier < place ∧ placeds[earlier]? = some other ∧
      other.boundKey? = .ok (some key)

variable {placeds before : List Placed} {placed : Placed} {place : Nat} {key : Text}

theorem repeated_take {boundary : Nat} (within : place < boundary) :
    Repeated (placeds.take boundary) place placed key ↔ Repeated placeds place placed key := by
  have same : ∀ earlier, earlier ≤ place →
      (placeds.take boundary)[earlier]? = placeds[earlier]? := fun earlier notAfter =>
    List.getElem?_take_of_lt (by omega)
  rw [Repeated, Repeated, same place (Nat.le_refl place)]
  apply and_congr_right
  intro _
  apply and_congr_right
  intro _
  apply exists_congr
  intro earlier
  apply exists_congr
  intro other
  apply and_congr_right
  intro smaller
  rw [same earlier (Nat.le_of_lt smaller)]

theorem repeated_behind {after : List Placed}
    (nameable : ∀ placed ∈ before, placed.component.Nameable) :
    Repeated (before ++ placed :: after) before.length placed key ↔
      placed.boundKey? = .ok (some key) ∧ key ∈ before.filterMap key? := by
  have here : (before ++ placed :: after)[before.length]? = some placed := by simp
  rw [Repeated, and_iff_right here, List.mem_filterMap]
  apply and_congr_right
  intro _
  constructor
  · intro given
    rcases given with ⟨earlier, other, smaller, found, keyed⟩
    rw [List.getElem?_append_left smaller] at found
    exact ⟨other, List.mem_of_getElem? found, (boundKey?_eq_ok_iff.mp keyed).2⟩
  · intro given
    rcases given with ⟨other, member, keyed⟩
    rcases List.mem_iff_getElem.mp member with ⟨earlier, smaller, rfl⟩
    refine ⟨earlier, before[earlier], smaller, ?_, ?_⟩
    · rw [List.getElem?_append_left smaller, List.getElem?_eq_getElem smaller]
    · rw [boundKey?_of_nameable (nameable _ member), keyed]

theorem distinct_iff_not_repeated (nameable : ∀ placed ∈ placeds, placed.component.Nameable) :
    (placeds.filterMap key?).Nodup ↔ ∀ place placed key, ¬ Repeated placeds place placed key := by
  rw [List.Nodup, List.pairwise_filterMap, List.pairwise_iff_getElem]
  constructor
  · intro distinct place placed key given
    rcases given with ⟨found, keyed, earlier, other, before, found', keyed'⟩
    rcases List.getElem?_eq_some_iff.mp found with ⟨inside, rfl⟩
    rcases List.getElem?_eq_some_iff.mp found' with ⟨inside', rfl⟩
    exact distinct earlier place inside' inside before key
      (boundKey?_eq_ok_iff.mp keyed').2 key (boundKey?_eq_ok_iff.mp keyed).2 rfl
  · intro none earlier place inside' inside before key keyed' key' keyed equal
    subst equal
    refine none place placeds[place] key ⟨List.getElem?_eq_getElem inside, ?_, earlier,
      placeds[earlier], before, List.getElem?_eq_getElem inside', ?_⟩
    · rw [boundKey?_of_nameable (nameable _ (List.getElem_mem inside)), keyed]
    · rw [boundKey?_of_nameable (nameable _ (List.getElem_mem inside')), keyed']

end Placed

/-! ## The check of all keys -/

namespace Schema

variable {schema : Schema}

theorem checkKeys_take_eq_ok_iff {placeds : List Placed}
    (nameable : ∀ placed ∈ placeds, placed.component.Nameable) (boundary : Nat) :
    checkKeys [] (placeds.take boundary) = .ok () ↔
      ∀ earlier < boundary, ∀ placed key, ¬ Placed.Repeated placeds earlier placed key := by
  have nameable' : ∀ placed ∈ placeds.take boundary, placed.component.Nameable :=
    fun placed member => nameable placed (List.mem_of_mem_take member)
  rw [checkKeys_eq_ok_iff, and_iff_right nameable', Placed.distinct_iff_not_repeated nameable']
  constructor
  · intro given earlier within placed key repeated
    rcases given with ⟨none, -⟩
    exact none earlier placed key ((Placed.repeated_take within).mpr repeated)
  · refine fun none => ⟨fun earlier placed key repeated => ?_, by simp⟩
    have within : earlier < boundary := by
      have inside := (List.getElem?_eq_some_iff.mp repeated.1).1
      rw [List.length_take] at inside
      omega
    exact none earlier within placed key ((Placed.repeated_take within).mp repeated)

theorem checkNames_eq_error_iff
    (nameable : ∀ placed ∈ schema.placed, placed.component.Nameable) {fault : Fault} :
    schema.checkNames = .error fault ↔
      ∃ place placed key, Placed.Repeated schema.placed place placed key ∧
        (∀ earlier < place, ∀ placed key, ¬ Placed.Repeated schema.placed earlier placed key) ∧
          fault = .rejected (.repeatedName (.text key) (.text placed.screen)) := by
  rw [checkNames, checkKeys_eq_error_iff, ← placed]
  -- The components before the one that fails are those that pass, so it is the first repeated one.
  constructor
  · intro given
    rcases given with ⟨before, placed, after, split, passed, failed⟩
    rw [split] at nameable ⊢
    rw [Placed.boundKey?_of_nameable (nameable placed (by simp))] at failed
    rcases failed with failed | ⟨key, keyed, old, rfl⟩
    · cases failed
    · refine ⟨before.length, placed, key, ?_, ?_, rfl⟩
      · rw [Placed.repeated_behind fun other member => nameable other (by simp [member]),
          Placed.boundKey?_of_nameable (nameable placed (by simp))]
        exact ⟨keyed, by simpa using old⟩
      · rw [← checkKeys_take_eq_ok_iff nameable, List.take_left]
        exact passed
  · intro given
    rcases given with ⟨place, placed, key, repeated, first, rfl⟩
    rcases Outcome.exists_split_of_getElem? repeated.1 with ⟨before, after, split, rfl⟩
    have passed := (checkKeys_take_eq_ok_iff nameable before.length).mpr first
    rw [split] at nameable repeated passed
    rw [List.take_left] at passed
    rw [Placed.repeated_behind fun other member => nameable other (by simp [member])] at repeated
    exact ⟨before, placed, after, split, passed, .inr ⟨key, repeated.1, .inr repeated.2, rfl⟩⟩

/-! ## Forms that were read -/

/-- Names that count are texts, and labels are absent or texts. -/
structure Worded (schema : Schema) : Prop where
  names : ∀ placed ∈ schema.placed, ∀ name, placed.component.name? = some name →
    name.isGiven = true → ∃ content, name = .text content
  labels : ∀ placed ∈ schema.placed, placed.component.label.AbsentOrText

theorem nameable_of_worded {component : Component} (wellFormed : component.WellFormed)
    (named : ∀ name, component.name? = some name → name.isGiven = true →
      ∃ content, name = .text content) : component.Nameable := by
  cases component with
  | static type text name => exact ⟨name, rfl, named name rfl⟩
  | input type name label required => exact ⟨name, rfl, named name rfl⟩
  | choice type name label required options => exact ⟨name, rfl, named name rfl⟩
  | foreign => exact wellFormed.elim

theorem compile_succeeds_of_worded {component : Component} (screen : Text) (position : Nat)
    (wellFormed : component.WellFormed)
    (named : ∀ name, component.name? = some name → name.isGiven = true →
      ∃ content, name = .text content) (labelled : component.label.AbsentOrText) :
    Outcome.Succeeds (component.compile (.text screen) (.int position)) := by
  have nameable := nameable_of_worded wellFormed named
  have json := Value.isJson_of_absentOrText labelled
  rw [Component.compile_succeeds_iff wellFormed nameable json]
  exact Value.presentable_of_absentOrText labelled

theorem parts_succeed_of_read {value : Value} (read : ofValue value = .ok schema)
    (worded : schema.Worded) : Outcome.Succeeds (schema.screens.mapM Screen.parts) :=
  succeeds_parts_iff.mpr fun placed member => compile_succeeds_of_worded placed.screen
    placed.position (wellFormed_of_read read _ member) (worded.names _ member)
    (worded.labels _ member)

theorem compile_succeeds_of_read {value : Value} (read : ofValue value = .ok schema)
    (worded : schema.Worded) (keyed : schema.Keyed) : Outcome.Succeeds schema.compile := by
  rcases parts_succeed_of_read read worded with ⟨parts, made⟩
  exact ⟨_, by rw [compile_eq (fits_of_read read) keyed, made]; rfl⟩

theorem compile_eq_error_iff {value : Value} (read : ofValue value = .ok schema)
    (worded : schema.Worded) {fault : Fault} :
    schema.compile = .error fault ↔ schema.checkNames = .error fault := by
  have fits : Layout.check schema.sizes = .ok () := by
    rw [sizes_eq, Layout.check_eq_ok_iff]
    exact fits_of_read read
  rw [compile_eq_error_iff_of_parts (parts_succeed_of_read read worded), validate, fits,
    Outcome.ok_bind]

/-- A form that was read, with texts for names and labels, passes the check of its layout again. It
compiles as soon as it is valid, and unless a key is repeated; then it is refused for the first
component whose key was there before. -/
theorem compile_of_read {value : Value} (read : ofValue value = .ok schema)
    (worded : schema.Worded) :
    Layout.check schema.sizes = .ok () ∧
      (schema.validate = .ok () → Outcome.Succeeds schema.compile) ∧
      (Outcome.Succeeds schema.compile ↔
        ∀ place placed key, ¬ Placed.Repeated schema.placed place placed key) ∧
      ∀ fault, schema.compile = .error fault ↔
        ∃ place placed key, Placed.Repeated schema.placed place placed key ∧
          (∀ earlier < place, ∀ placed key,
            ¬ Placed.Repeated schema.placed earlier placed key) ∧
          fault = .rejected (.repeatedName (.text key) (.text placed.screen)) := by
  have nameable : ∀ placed ∈ schema.placed, placed.component.Nameable := fun placed member =>
    nameable_of_worded (wellFormed_of_read read placed member) (worded.names placed member)
  have fits := fits_of_read read
  refine ⟨by rw [sizes_eq, Layout.check_eq_ok_iff]; exact fits, ?_, ?_, fun fault => ?_⟩
  · exact fun valid => compile_succeeds_of_read read worded (validate_eq_ok_iff.mp valid).2
  · rw [← Placed.distinct_iff_not_repeated nameable]
    constructor
    · intro given
      rcases given with ⟨flow, compiled⟩
      have distinct := (compile_eq_ok_iff.mp compiled).2.1.distinct
      rwa [Screen.keys_keyed] at distinct
    · refine fun distinct => compile_succeeds_of_read read worded ⟨nameable, ?_⟩
      rwa [Screen.keys_keyed]
  · rw [compile_eq_error_iff read worded, checkNames_eq_error_iff nameable]

/-- A form of two screens whose components have the same key. -/
def clash : Schema where
  screens := [
    ⟨"a_b", .text "", [.input .input (.text "c") .null (.bool false)]⟩,
    ⟨"a", .text "", [.static .heading .null (.text "b_c")]⟩]

def clashDocument : Value :=
  .map [field "screens" (.list [
    .map [field "id" (.text "a_b"), field "components" (.list [
      .map [field "type" (.text "input"), field "name" (.text "c")]])],
    .map [field "id" (.text "a"), field "components" (.list [
      .map [field "type" (.text "heading"), field "name" (.text "b_c")]])]])]

theorem compile_clash :
    ofValue clashDocument = .ok clash ∧ clash.Worded ∧
      clash.compile = reject (.repeatedName (.text "a_b_c_0") (.text "a")) := by
  have read : ofValue clashDocument = .ok clash := by decide +kernel
  have components : clash.placed = [⟨"a_b", 0, .input .input (.text "c") .null (.bool false)⟩,
      ⟨"a", 0, .static .heading .null (.text "b_c")⟩] := rfl
  have worded : clash.Worded :=
    { names := by simp [components, Component.name?]
      labels := by simp [components, Component.label, Value.AbsentOrText] }
  refine ⟨read, worded, ((compile_of_read read worded).2.2.2 _).mpr
    ⟨1, _, "a_b_c_0", ⟨rfl, by decide +kernel, 0, _, by decide, rfl, by decide +kernel⟩, ?_, rfl⟩⟩
  intro earlier before placed key given
  rcases given with ⟨-, -, other, -, smaller, -⟩
  omega

end Schema

end ScreenFlow
