import ScreenFlow.Proofs.Writing

namespace ScreenFlow

/-! Which values can be written with their keys in order, as a report does it, among all that a
document may hold. Dates, bytes, sets and what stands for a collection inside itself have no text,
and the keys of one mapping have to be of one kind. -/

open Outcome

namespace Value

/-! ## Keys -/

def isNumeral : Value → Bool
  | .bool _ | .float _ => true
  | .int number => Whole.isWritable number
  | _ => false

/-- Whether the keys of a mapping can be put in order and written: they are texts, or numbers, or
there is no key but null. -/
def keysAgree (keys : List Value) : Bool :=
  keys.all (·.text?.isSome) || keys.all isNumeral || keys == [.null]

theorem keysAgree_iff {keys : List Value} :
    keysAgree keys = true ↔
      (∀ key ∈ keys, key.text?.isSome = true) ∨ (∀ key ∈ keys, key.isNumeral = true) ∨
        keys = [.null] := by
  rw [keysAgree, Bool.or_eq_true, Bool.or_eq_true, List.all_eq_true, List.all_eq_true, beq_iff_eq,
    or_assoc]

theorem isNumeral_of_text {key : Value} (text : key.text?.isSome = true) :
    key.isNumeral = false := by
  cases key <;> simp [text?, isNumeral] at text ⊢

/-! ## Parts -/

mutual

def hasText : Value → Bool
  | .null | .bool _ | .float _ | .text _ => true
  | .int number => Whole.isWritable number
  | .list items | .tuple items => haveTexts items
  | .map entries => keysAgree (entries.map Prod.fst) && entriesHaveTexts entries
  | .cyclic _ content => hasText content
  | .date _ | .moment _ | .bytes _ | .set _ | .again _ => false
termination_by structural value => value

def haveTexts : List Value → Bool
  | [] => true
  | value :: values => hasText value && haveTexts values
termination_by structural values => values

def entriesHaveTexts : List (Value × Value) → Bool
  | [] => true
  | (_, value) :: entries => hasText value && entriesHaveTexts entries
termination_by structural entries => entries

end

mutual

/-- Whether all parts of a value have texts, where a test tells which keys a mapping may have. -/
def isWorded (fits : List Value → Bool) : Value → Bool
  | .null | .bool _ | .float _ | .text _ => true
  | .int number => Whole.isWritable number
  | .list items | .tuple items => areWorded fits items
  | .map entries => fits (entries.map Prod.fst) && entriesAreWorded fits entries
  | .cyclic _ content => isWorded fits content
  | .date _ | .moment _ | .bytes _ | .set _ | .again _ => false
termination_by structural value => value

def areWorded (fits : List Value → Bool) : List Value → Bool
  | [] => true
  | value :: values => isWorded fits value && areWorded fits values
termination_by structural values => values

def entriesAreWorded (fits : List Value → Bool) : List (Value × Value) → Bool
  | [] => true
  | (_, value) :: entries => isWorded fits value && entriesAreWorded fits entries
termination_by structural entries => entries

end

mutual

theorem hasText_eq : ∀ value : Value, value.hasText = value.isWorded keysAgree
  | .list items | .tuple items => haveTexts_eq items
  | .map entries => by rw [hasText, isWorded, entriesHaveTexts_eq entries]
  | .cyclic _ content => hasText_eq content
  | .null | .bool _ | .int _ | .float _ | .text _ | .date _ | .moment _ | .bytes _ | .set _
  | .again _ => rfl

theorem haveTexts_eq : ∀ values : List Value, haveTexts values = areWorded keysAgree values
  | [] => rfl
  | value :: values => by rw [haveTexts, areWorded, hasText_eq value, haveTexts_eq values]

theorem entriesHaveTexts_eq :
    ∀ entries : List (Value × Value), entriesHaveTexts entries = entriesAreWorded keysAgree entries
  | [] => rfl
  | (_, value) :: entries => by
      rw [entriesHaveTexts, entriesAreWorded, hasText_eq value, entriesHaveTexts_eq entries]

end

mutual

def depth : Value → Nat
  | .list items | .tuple items => depthOfAll items + 1
  | .map entries => depthOfEntries entries + 1
  | .cyclic _ content => depth content
  | _ => 0
termination_by structural value => value

def depthOfAll : List Value → Nat
  | [] => 0
  | value :: values => max (depth value) (depthOfAll values)
termination_by structural values => values

def depthOfEntries : List (Value × Value) → Nat
  | [] => 0
  | (_, value) :: entries => max (depth value) (depthOfEntries entries)
termination_by structural entries => entries

end

def isReportable (value : Value) : Bool := value.hasText && decide (value.depth ≤ Json.maxNesting)

end Value

namespace Json

variable {α : Type}

/-! ## Ordering -/

theorem succeeds_keyText_iff {key : Value} :
    Succeeds (keyText key) ↔
      key.text?.isSome = true ∨ key.isNumeral = true ∨ key = .null := by
  cases key with
  | int number =>
      have text : keyText (.int number) = scalarText (.int number) := rfl
      rw [text, scalarText, Value.isNumeral, Value.text?]
      · cases Whole.isWritable number <;> simp [Succeeds]
      · simp
  | _ => simp [keyText, scalarText, Value.isNumeral, Value.text?, Succeeds]

theorem keyLess?_isSome_iff {left right : Value} (first : Succeeds (keyText left))
    (second : Succeeds (keyText right)) :
    (keyLess? left right).isSome = true ↔
      (left.text?.isSome = true ∧ right.text?.isSome = true) ∨
        (left.isNumeral = true ∧ right.isNumeral = true) := by
  rw [succeeds_keyText_iff] at first second
  cases left <;> simp [Value.isNumeral, Value.text?] at first <;>
    cases right <;> simp [Value.isNumeral, Value.text?] at second <;>
      simp [keyLess?, Value.isNumeral, Value.text?, Value.whole?, first, second]

theorem sortEntries?_isSome_iff {entries : List (Value × α)} :
    (sortEntries? entries).isSome = true ↔
      ∀ first second : Nat, first ≠ second → ∀ left right,
        entries[first]? = some left → entries[second]? = some right →
          (keyLess? left.1 right.1).isSome = true := by
  have comparable : (sortEntries? entries).isSome = true ↔
      ∀ left ∈ Sequence.indexed entries, ∀ right ∈ Sequence.indexed entries,
        left.1 = right.1 ∨ (keyLess? left.2.1 right.2.1).isSome = true := by
    rw [sortEntries?]
    split
    · next given =>
        simp only [List.all_eq_true, Bool.or_eq_true, beq_iff_eq] at given
        exact iff_of_true rfl given
    · next given =>
        simp only [List.all_eq_true, Bool.or_eq_true, beq_iff_eq] at given
        exact iff_of_false (by simp) given
  rw [comparable]
  constructor
  · intro each first second apart left right there also
    exact (each (first, left) (Sequence.mem_indexed_iff.mpr there) (second, right)
      (Sequence.mem_indexed_iff.mpr also)).resolve_left apart
  · intro each left inLeft right inRight
    by_cases same : left.1 = right.1
    · exact .inl same
    · exact .inr (each left.1 right.1 same left.2 right.2 (Sequence.mem_indexed_iff.mp inLeft)
        (Sequence.mem_indexed_iff.mp inRight))

theorem keysAgree_of_ordered {entries : List (Value × α)}
    (ordered : (sortEntries? entries).isSome = true)
    (named : ∀ entry ∈ entries, Succeeds (keyText entry.1)) :
    Value.keysAgree (entries.map Prod.fst) = true := by
  rw [sortEntries?_isSome_iff] at ordered
  rw [Value.keysAgree_iff, List.forall_mem_map, List.forall_mem_map]
  cases entries with
  | nil => exact .inl (by simp)
  | cons first rest =>
      have head := named first List.mem_cons_self
      -- The first key decides of what kind the others are.
      have later : ∀ entry ∈ rest, (first.1.text?.isSome = true ∧ entry.1.text?.isSome = true) ∨
          (first.1.isNumeral = true ∧ entry.1.isNumeral = true) := by
        intro entry member
        rcases List.mem_iff_getElem?.mp member with ⟨position, there⟩
        rw [← keyLess?_isSome_iff head (named entry (List.mem_cons_of_mem _ member))]
        exact ordered 0 (position + 1) (by omega) first entry rfl there
      rw [List.forall_mem_cons, List.forall_mem_cons]
      rcases succeeds_keyText_iff.mp head with text | numeral | null
      · have other := Value.isNumeral_of_text text
        exact .inl ⟨text, fun entry member => by simpa [text, other] using later entry member⟩
      · have other : ¬ first.1.text?.isSome = true := by
          intro text
          simp [Value.isNumeral_of_text text] at numeral
        exact .inr (.inl ⟨numeral, fun entry member => by
          simpa [numeral, other] using later entry member⟩)
      · have alone : rest = [] := by
          rw [List.eq_nil_iff_forall_not_mem]
          intro entry member
          simpa [null, Value.text?, Value.isNumeral] using later entry member
        exact .inr (.inr (by simp [alone, null]))

theorem ordered_of_alike {entries : List (Value × α)}
    (named : ∀ entry ∈ entries, Succeeds (keyText entry.1))
    (alike : ∀ left ∈ entries, ∀ right ∈ entries,
      (left.1.text?.isSome = true ∧ right.1.text?.isSome = true) ∨
        (left.1.isNumeral = true ∧ right.1.isNumeral = true)) :
    (sortEntries? entries).isSome = true := by
  rw [sortEntries?_isSome_iff]
  intro first second _ left right there also
  have inLeft := List.mem_of_getElem? there
  have inRight := List.mem_of_getElem? also
  rw [keyLess?_isSome_iff (named left inLeft) (named right inRight)]
  exact alike left inLeft right inRight

theorem ordered_of_keysAgree {entries : List (Value × α)}
    (agree : Value.keysAgree (entries.map Prod.fst) = true) :
    (sortEntries? entries).isSome = true ∧ ∀ entry ∈ entries, Succeeds (keyText entry.1) := by
  rw [Value.keysAgree_iff, List.forall_mem_map, List.forall_mem_map] at agree
  rcases agree with texts | numerals | alone
  · have named : ∀ entry ∈ entries, Succeeds (keyText entry.1) :=
      fun entry member => succeeds_keyText_iff.mpr (.inl (texts entry member))
    exact ⟨ordered_of_alike named fun left inLeft right inRight =>
      .inl ⟨texts left inLeft, texts right inRight⟩, named⟩
  · have named : ∀ entry ∈ entries, Succeeds (keyText entry.1) :=
      fun entry member => succeeds_keyText_iff.mpr (.inr (.inl (numerals entry member)))
    exact ⟨ordered_of_alike named fun left inLeft right inRight =>
      .inr ⟨numerals left inLeft, numerals right inRight⟩, named⟩
  · rcases List.map_eq_singleton_iff.mp alone with ⟨entry, rfl, null⟩
    refine ⟨rfl, ?_⟩
    simpa using succeeds_keyText_iff.mpr (.inr (.inr null))

theorem succeeds_joinEntry_iff {layout : Layout} {entry : Value × Except Fault Written} :
    Succeeds (joinEntry layout entry) ↔ Succeeds (keyText entry.1) ∧ Succeeds entry.2 := by
  rw [joinEntry]
  cases keyText entry.1 <;> cases entry.2 <;>
    simp [Succeeds, bind, Except.bind, pure, Except.pure]

theorem joinEntries_sorted_succeeds_iff {entries : List (Value × Except Fault Written)} :
    Succeeds (joinEntries .sorted entries) ↔
      Value.keysAgree (entries.map Prod.fst) = true ∧ ∀ entry ∈ entries, Succeeds entry.2 := by
  have each {ordered : List (Value × Except Fault Written)}
      (arranged : arrange .sorted entries = .ok ordered) :
      Succeeds (ordered.mapM (joinEntry .sorted)) ↔
        (∀ entry ∈ entries, Succeeds (keyText entry.1)) ∧ ∀ entry ∈ entries, Succeeds entry.2 := by
    simp only [mapM_succeeds_iff, succeeds_joinEntry_iff, mem_of_arrange arranged]
    exact ⟨fun given => ⟨fun entry member => (given entry member).1,
      fun entry member => (given entry member).2⟩,
        fun given entry member => ⟨given.1 entry member, given.2 entry member⟩⟩
  rw [joinEntries_eq, succeeds_bind_iff]
  constructor
  · intro given
    rcases given with ⟨ordered, arranged, written⟩
    rw [each arranged] at written
    have sorted : sortEntries? entries = some ordered := orFault_eq_ok.mp arranged
    exact ⟨keysAgree_of_ordered (by simp [sorted]) written.1, written.2⟩
  · intro given
    rcases ordered_of_keysAgree given.1 with ⟨sorted, named⟩
    rcases Option.isSome_iff_exists.mp sorted with ⟨ordered, sorted⟩
    have arranged : arrange .sorted entries = .ok ordered := orFault_eq_ok.mpr sorted
    exact ⟨ordered, arranged, (each arranged).mpr ⟨named, given.2⟩⟩

/-! ## Writing -/

theorem keys_writeEntries (layout : Layout) (level : Nat) (entries : List (Value × Value)) :
    (writeEntries layout level entries).map Prod.fst = entries.map Prod.fst := by
  induction entries with
  | nil => rfl
  | cons entry entries induction => rw [writeEntries, List.map_cons, List.map_cons, induction]

theorem succeeds_enclosed_iff {β : Type} {level depth : Nat} {written : Except Fault α}
    {enclose : α → β} {holds : Prop}
    (each : level < maxNesting → (Succeeds written ↔ holds ∧ level + 1 + depth ≤ maxNesting)) :
    Succeeds ((inside level written).map enclose) ↔
      holds ∧ level + (depth + 1) ≤ maxNesting := by
  rw [succeeds_map_iff, succeeds_inside_iff]
  constructor
  · intro given
    have inner := (each given.1).mp given.2
    exact ⟨inner.1, by omega⟩
  · intro given
    have room : level < maxNesting := by omega
    exact ⟨room, (each room).mpr ⟨given.1, by omega⟩⟩

def Joins (layout : Layout) (fits : List Value → Bool) : Prop :=
  ∀ entries : List (Value × Except Fault Written),
    Succeeds (joinEntries layout entries) ↔
      fits (entries.map Prod.fst) = true ∧ ∀ entry ∈ entries, Succeeds entry.2

section Joins

variable {layout : Layout} {fits : List Value → Bool}

mutual

theorem Joins.writeAt_succeeds_iff (joins : Joins layout fits) {level : Nat}
    (within : level ≤ maxNesting) :
    ∀ {value : Value}, Succeeds (writeAt layout level value) ↔
      value.isWorded fits = true ∧ level + value.depth ≤ maxNesting
  | .list items => by
      rw [writeAt, Value.isWorded, Value.depth]
      exact succeeds_enclosed_iff fun room => joins.writeAll_succeeds_iff room
  | .tuple items => by
      rw [writeAt, Value.isWorded, Value.depth]
      exact succeeds_enclosed_iff fun room => joins.writeAll_succeeds_iff room
  | .map entries => by
      rw [writeAt, Value.isWorded, Value.depth, Bool.and_eq_true]
      apply succeeds_enclosed_iff
      intro room
      rw [joins, keys_writeEntries, joins.writeEntries_succeed_iff room, and_assoc]
  | .cyclic _ content => by
      rw [writeAt, Value.isWorded, Value.depth]
      exact joins.writeAt_succeeds_iff within
  | .int number => by
      have limited : level + (Value.int number).depth ≤ maxNesting := within
      rw [writeAt, succeeds_map_iff, scalarText, Value.isWorded, and_iff_left limited]
      · cases Whole.isWritable number <;> simp [Succeeds]
      all_goals simp
  | .text _ => iff_of_true (.ok _) ⟨rfl, within⟩
  | .null | .bool _ | .float _ => iff_of_true (.ok _) ⟨rfl, within⟩
  | .date _ | .moment _ | .bytes _ | .set _ | .again _ => by
      simp [writeAt, scalarText, Value.isWorded, Succeeds, Except.map]

theorem Joins.writeAll_succeeds_iff (joins : Joins layout fits) {level : Nat}
    (within : level < maxNesting) :
    ∀ {values : List Value}, Succeeds (writeAll layout (level + 1) values) ↔
      Value.areWorded fits values = true ∧ level + 1 + Value.depthOfAll values ≤ maxNesting
  | [] => iff_of_true (.ok _) ⟨rfl, within⟩
  | value :: values => by
      rw [succeeds_writeAll_cons_iff, joins.writeAt_succeeds_iff within,
        joins.writeAll_succeeds_iff within, Value.areWorded, Value.depthOfAll, add_max_le_iff,
        Bool.and_eq_true]
      tauto

theorem Joins.writeEntries_succeed_iff (joins : Joins layout fits) {level : Nat}
    (within : level < maxNesting) :
    ∀ {entries : List (Value × Value)},
      (∀ entry ∈ writeEntries layout (level + 1) entries, Succeeds entry.2) ↔
        Value.entriesAreWorded fits entries = true ∧
          level + 1 + Value.depthOfEntries entries ≤ maxNesting
  | [] => iff_of_true (by simp [writeEntries]) ⟨rfl, within⟩
  | (_, value) :: entries => by
      rw [writeEntries, List.forall_mem_cons, joins.writeAt_succeeds_iff within,
        joins.writeEntries_succeed_iff within, Value.entriesAreWorded, Value.depthOfEntries,
        add_max_le_iff, Bool.and_eq_true]
      tauto

end

/-- A value is written if its parts have texts and its collections do not lie inside each other on
too many levels. -/
theorem Joins.write_succeeds_iff (joins : Joins layout fits) {value : Value} :
    Succeeds (write layout value) ↔ value.isWorded fits = true ∧ value.depth ≤ maxNesting := by
  rw [write, succeeds_map_iff, joins.writeAt_succeeds_iff (Nat.zero_le _), Nat.zero_add]

end Joins

/-- A report can quote the values whose parts have texts and whose collections do not lie inside
each other on too many levels. -/
theorem write_sorted_succeeds_iff {value : Value} :
    Succeeds (write .sorted value) ↔ value.isReportable = true := by
  have joins : Joins .sorted Value.keysAgree := fun _ => joinEntries_sorted_succeeds_iff
  rw [joins.write_succeeds_iff, ← Value.hasText_eq, Value.isReportable, Bool.and_eq_true,
    decide_eq_true_iff]

end Json

end ScreenFlow
