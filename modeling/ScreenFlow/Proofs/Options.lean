import ScreenFlow.Proofs.Merging
import ScreenFlow.Proofs.Page

namespace ScreenFlow

/-! What becomes of the options of a choice. Options may be written alike once blanks and capitals
are gone, so an id begins with the position of its option; all else about an id is for the reader. -/

open Outcome

/-! ## Lower case -/

namespace Text

theorem not_isBlank_of_forall {code : Nat}
    (outside : ∀ range ∈ blankRanges, code < range.1 ∨ range.2 < code) :
    inRanges blankRanges code = false := by
  rw [inRanges, List.any_eq_false]
  intro range member
  have apart := outside range member
  simp only [Bool.and_eq_true, decide_eq_true_eq]
  omega

theorem caseRuns_apart : ∀ run ∈ caseRuns, ∀ range ∈ blankRanges,
    0 < range.1 ∧ (run.last + run.shift < range.1 ∨ (range.2 : Int) < run.first + run.shift) := by
  decide +kernel

theorem ascii_apart : ∀ code < 128, isBlank (Char.ofNat code) = false →
    isBlank (Char.ofNat code).toLower = false := by
  decide +kernel

theorem toNat_ofNat (code : Nat) :
    (Char.ofNat code).toNat = code ∨ (Char.ofNat code).toNat = 0 := by
  by_cases valid : code.isValidChar
  · left
    rw [Char.ofNat, dif_pos valid]
    rfl
  · right
    rw [Char.ofNat, dif_neg valid]
    rfl

theorem isBlank_lowered {run : CaseRun} (listed : run ∈ caseRuns) {code : Nat}
    (covered : run.covers code = true) : isBlank (Char.ofNat (run.lowered code)) = false := by
  apply not_isBlank_of_forall
  intro range member
  rcases caseRuns_apart run listed range member with ⟨positive, apart⟩
  simp only [CaseRun.covers, Bool.and_eq_true, decide_eq_true_eq] at covered
  rcases covered with ⟨⟨lower, upper⟩, -⟩
  have lowered : run.lowered code = (code + run.shift).toNat := rfl
  rw [Point.toNat_char]
  rcases toNat_ofNat (run.lowered code) with same | zero <;> omega

theorem isBlank_lowerPoint {point : Point} (visible : isBlank point = false) :
    isBlank (lowerPoint point) = false := by
  cases point with
  | char character =>
      rw [lowerPoint]
      split
      · next ascii =>
          have apart := ascii_apart character.toNat ascii
          rw [Char.ofNat_toNat] at apart
          exact apart visible
      · split
        · next run found =>
            exact isBlank_lowered (List.mem_of_find?_eq_some found)
              (by simpa using List.find?_some found)
        · exact visible
  | surrogate index => exact visible

theorem not_isBlank_of_mem_lowerFrom {before text : List Point} {point : Point}
    (visible : ∀ point ∈ text, isBlank point = false)
    (member : point ∈ lowerFrom before text) : isBlank point = false := by
  induction text generalizing before with
  | nil => cases member
  | cons head rest induction =>
      rw [List.forall_mem_cons] at visible
      rw [lowerFrom, List.mem_append] at member
      rcases member with formed | later
      · split at formed
        · rw [List.mem_singleton] at formed
          rw [formed]
          split <;> decide
        · split at formed
          · rw [List.mem_cons, List.mem_singleton] at formed
            rcases formed with rfl | rfl <;> decide
          · rw [List.mem_singleton] at formed
            rw [formed]
            exact isBlank_lowerPoint visible.1
      · exact induction visible.2 later

theorem not_isBlank_of_mem_lower {text : Text} {point : Point}
    (visible : ∀ point ∈ text.toList, isBlank point = false)
    (member : point ∈ (lower text).toList) : isBlank point = false := by
  rw [lower, Text.toList_ofList] at member
  exact not_isBlank_of_mem_lowerFrom visible member

theorem isBlank_digit {character : Char} (digit : character.isDigit = true) :
    isBlank character = false := by
  have apart : ∀ range ∈ blankRanges, range.2 < '0'.toNat ∨ '9'.toNat < range.1 := by decide
  apply not_isBlank_of_forall
  intro range member
  rcases Char.isDigit_iff_toNat.mp digit with ⟨lower, upper⟩
  have := apart range member
  rw [Point.toNat_char]
  omega

end Text

/-! ## Ids -/

namespace Choice

variable (position : Nat) (content : Text)

theorem toList_id_ofText :
    (ofText position content).id.toList =
      (Text.ofString (toString position)).toList ++
        .char '_' :: (Text.lower (Naming.underscored content)).toList := by
  simp [ofText, Text.toList_ofString]

def front (id : Text) : List Point := id.toList.takeWhile fun point => point != .char '_'

theorem front_ofText :
    front (ofText position content).id = (Text.ofString (toString position)).toList := by
  have plain : ∀ point ∈ (Text.ofString (toString position)).toList,
      (point != .char '_') = true := by
    intro point member
    rw [bne_iff_ne]
    rintro rfl
    exact Naming.mark_not_mem_position position member
  rw [front, toList_id_ofText, List.takeWhile_append_of_pos plain,
    List.takeWhile_cons_of_neg (by decide), List.append_nil]

theorem not_isBlank_of_mem_ofText {point : Point}
    (member : point ∈ (ofText position content).id.toList) :
    Text.isBlank point = false := by
  rw [toList_id_ofText, List.mem_append, List.mem_cons] at member
  rcases member with digit | rfl | lowered
  · rw [Text.toList_ofString, Nat.toString_eq_repr, Nat.toList_repr, List.mem_map] at digit
    rcases digit with ⟨letter, digit, rfl⟩
    exact Text.isBlank_digit (Nat.isDigit_of_mem_toDigits (by decide) (by decide) digit)
  · decide
  · refine Text.not_isBlank_of_mem_lower (fun point member => ?_) lowered
    rw [Naming.underscored, Text.toList_ofList] at member
    exact Naming.not_isBlank_of_mem_collapseBlanks member

/-- The choices are the texts in order, and each has an id of its own that tells where its text
is. -/
structure Traceable (contents : List Text) (choices : List Choice) : Prop where
  titles : choices.map Choice.title = contents.map Value.text
  distinct : (choices.map Choice.id).Nodup
  solid : ∀ choice ∈ choices, ∀ point ∈ choice.id.toList, Text.isBlank point = false
  marked : ∀ choice ∈ choices, .char '_' ∈ choice.id.toList
  numbered : choices.map (fun choice => front choice.id) =
    (List.range contents.length).map fun position => (Text.ofString (toString position)).toList

theorem traceable_ofText (contents : List Text) :
    Traceable contents (contents.zipIdx.map fun entry => ofText entry.2 entry.1) := by
  have numbered : (contents.zipIdx.map fun entry => ofText entry.2 entry.1).map
      (fun choice => front choice.id) =
        (List.range contents.length).map fun position =>
          (Text.ofString (toString position)).toList := by
    rw [List.map_map, List.range_eq_range', ← List.zipIdx_map_snd, List.map_map]
    exact List.map_congr_left fun entry _ => front_ofText entry.2 entry.1
  have made {choice : Choice}
      (member : choice ∈ contents.zipIdx.map fun entry => ofText entry.2 entry.1) :
      ∃ position content, ofText position content = choice := by
    rcases List.mem_map.mp member with ⟨entry, -, made⟩
    exact ⟨entry.2, entry.1, made⟩
  refine ⟨?_, ?_, fun choice member point => ?_, fun choice member => ?_, numbered⟩
  · conv_rhs => rw [← List.zipIdx_map_fst 0 contents, List.map_map]
    rw [List.map_map]
    rfl
  · -- Ids with different fronts differ, and the fronts are the positions.
    apply List.Nodup.of_map front
    rw [List.map_map]
    refine numbered ▸ List.nodup_range.map fun first second equal => ?_
    exact Nat.repr_injective (Text.ofString_inj.mp (Text.toList_inj.mp equal))
  · rcases made member with ⟨position, content, rfl⟩
    exact not_isBlank_of_mem_ofText position content
  · rcases made member with ⟨position, content, rfl⟩
    rw [toList_id_ofText]
    exact List.mem_append_right _ List.mem_cons_self

/-! ## Documents -/

def ofValue? (entry : Value) : Option Choice := do
  let id ← (← entry.member? "id").text?
  return { id, title := ← entry.member? "title" }

/-- What there is to choose from in the document of a widget. -/
def source? (widget : Value) : Option (List Choice) := do
  (← (← widget.member? "data-source").items?).mapM ofValue?

theorem source?_toValue (type : ChoiceType) (label : Value) (name : Text) (required : Value)
    (choices : List Choice) :
    source? (Widget.choice type label name required (some choices)).toValue = some choices := by
  have source : (Widget.choice type label name required (some choices)).toValue.member?
      "data-source" = some (.list (choices.map toValue)) := by
    cases absent : label.isNull <;>
      simp [Widget.toValue, optionalField, absent, Value.member?, Value.lookup?, field,
        Value.text?]
  simp only [source?, source, Value.items?, Option.bind_eq_bind, Option.bind_some]
  have read : (choices.map toValue).mapM ofValue? = some (choices.map fun choice => choice) :=
    Page.mapM_of_reads (fun choice => by
      simp [ofValue?, toValue, Value.member?, Value.lookup?, field, Value.text?]) choices
  rwa [List.map_id'] at read

end Choice

namespace Component

/-- A choice whose options are texts compiles if its name and its label can be used; whenever it
compiles, the options can be traced in the document of its widget. -/
theorem traceable_of_texts (type : ChoiceType) (name label required : Value)
    (contents : List Text) (screen position : Value) :
    ((∃ content, name = .text content) → label.AbsentOrText →
      Succeeds ((Component.choice type name label required (.list (contents.map .text))).compile
        screen position)) ∧
      ∀ part, (Component.choice type name label required (.list (contents.map .text))).compile
          screen position = .ok part →
        ∃ choices, Choice.source? part.1.toValue = some choices ∧
          Choice.Traceable contents choices := by
  refine ⟨fun named textual => ?_, fun part made => ?_⟩
  · have spelled : (Component.choice type name label required
        (.list (contents.map .text))).Spelled := ⟨named, textual, .inr ⟨contents, rfl⟩⟩
    exact compile_succeeds_of_spelled spelled screen position
  · cases compile_eq_ok_iff.mp made with
    | choice named cut noted listed =>
        rw [Choice.offered_list, Choice.ofOptions_texts] at listed
        rcases Except.ok.inj listed with rfl
        exact ⟨_, Choice.source?_toValue .., Choice.traceable_ofText contents⟩

def alike : List Text := ["Not Sure", "not\tsure", "", "", "ΟΔΟΣ ", "οδός "]

theorem alike_traceable :
    ∃ part choices, (Component.choice .dropdown (.text "answer") .null .null
        (.list (alike.map .text))).compile (.text "poll") (.int 0) = .ok part ∧
      Choice.source? part.1.toValue = some choices ∧ Choice.Traceable alike choices := by
  have traced := traceable_of_texts .dropdown (.text "answer") .null .null alike
    (.text "poll") (.int 0)
  rcases traced.1 ⟨_, rfl⟩ (.inl rfl) with ⟨part, made⟩
  rcases traced.2 part made with ⟨choices, read, traceable⟩
  exact ⟨part, choices, made, read, traceable⟩

end Component

end ScreenFlow
