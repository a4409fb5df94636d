import Mathlib.Data.List.Forall2
import ScreenFlow.Fault

namespace ScreenFlow.Outcome

/-! Steps that end with a result or with a fault. Steps taken in a row succeed if each of them
does; otherwise they end with the fault of the first one that has a fault. -/

variable {ε α β γ δ : Type}

def Succeeds (step : Except ε α) : Prop := ∃ result, step = .ok result

theorem Succeeds.ok (result : α) : Succeeds (.ok result : Except ε α) := ⟨result, rfl⟩

theorem Succeeds.pure (result : α) : Succeeds (pure result : Except ε α) := .ok result

instance decidableSucceeds : (step : Except ε α) → Decidable (Succeeds step)
  | .ok result => isTrue (.ok result)
  | .error _ => isFalse (by simp [Succeeds])

theorem exists_of_any {step : Except ε α} {test : α → Bool}
    (passed : step.toOption.any test = true) :
    ∃ result, step = .ok result ∧ test result = true := by
  cases step with
  | ok result => exact ⟨result, rfl, passed⟩
  | error fault => cases passed

/-! ## One step after another -/

theorem ok_bind (result : α) (next : α → Except ε β) :
    ((.ok result : Except ε α) >>= next) = next result := rfl

theorem error_bind (fault : ε) (next : α → Except ε β) :
    ((.error fault : Except ε α) >>= next) = .error fault := rfl

theorem bind_eq_ok {step : Except ε α} {next : α → Except ε β} {result : β} :
    (step >>= next) = .ok result ↔
      ∃ middle, step = .ok middle ∧ next middle = .ok result := by
  cases step <;> simp [bind, Except.bind]

theorem bind_eq_error {step : Except ε α} {next : α → Except ε β} {fault : ε} :
    (step >>= next) = .error fault ↔
      step = .error fault ∨ ∃ middle, step = .ok middle ∧ next middle = .error fault := by
  cases step <;> simp [bind, Except.bind]

theorem pure_eq_ok {value result : α} :
    (pure value : Except ε α) = .ok result ↔ value = result := by
  simp [pure, Except.pure]

theorem map_eq_ok {step : Except ε α} {transform : α → β} {result : β} :
    step.map transform = .ok result ↔ ∃ middle, step = .ok middle ∧ transform middle = result := by
  cases step <;> simp [Except.map]

theorem map_eq_error_iff {step : Except ε α} {transform : α → β} {fault : ε} :
    step.map transform = .error fault ↔ step = .error fault := by
  cases step <;> simp [Except.map]

theorem succeeds_bind_iff {step : Except ε α} {next : α → Except ε β} :
    Succeeds (step >>= next) ↔ ∃ middle, step = .ok middle ∧ Succeeds (next middle) := by
  cases step <;> simp [Succeeds, bind, Except.bind]

theorem succeeds_map_iff {step : Except ε α} {transform : α → β} :
    Succeeds (step.map transform) ↔ Succeeds step := by
  cases step <;> simp [Succeeds, Except.map]

theorem functor_map_eq (step : Except ε α) (transform : α → β) :
    transform <$> step = step.map transform := rfl

theorem orFault_eq_ok {fault : Fault} {found : Option α} {result : α} :
    orFault fault found = .ok result ↔ found = some result := by
  cases found <;> simp [orFault]

theorem orFault_eq_error {fault other : Fault} {found : Option α} :
    orFault fault found = .error other ↔ found = none ∧ fault = other := by
  cases found <;> simp [orFault]

/-! ## The same step for every item -/

theorem mapM_congr {step : α → Except ε γ} {step' : β → Except ε γ} {items : List α}
    {items' : List β}
    (same : List.Forall₂ (fun item item' => step item = step' item') items items') :
    items.mapM step = items'.mapM step' := by
  induction same with
  | nil => rfl
  | cons first _ induction => rw [List.mapM_cons, List.mapM_cons, first, induction]

theorem map_mapM {step : α → Except ε β} (view : β → γ) (items : List α) :
    (items.mapM step).map (List.map view) = items.mapM fun item => (step item).map view := by
  induction items with
  | nil => rfl
  | cons item items induction =>
      rw [List.mapM_cons, List.mapM_cons, ← induction]
      cases step item with
      | error fault => rfl
      | ok result => cases items.mapM step <;> rfl

theorem mapM_eq_ok_iff {step : α → Except ε β} {items : List α} {results : List β} :
    items.mapM step = .ok results ↔
      List.Forall₂ (fun item result => step item = .ok result) items results := by
  induction items generalizing results with
  | nil => cases results <;> simp [pure, Except.pure]
  | cons item items induction =>
      rw [List.mapM_cons, bind_eq_ok]
      simp only [bind_eq_ok, induction, pure_eq_ok, List.forall₂_cons_left_iff]
      constructor
      · intro given
        rcases given with ⟨first, stepped, rest, continued, rfl⟩
        exact ⟨first, rest, stepped, continued, rfl⟩
      · intro given
        rcases given with ⟨first, rest, stepped, continued, rfl⟩
        exact ⟨first, stepped, rest, continued, rfl⟩

theorem mapM_eq_ok_iff_map {step : α → Except ε β} {fits : α → Prop} {outcome : α → β}
    (each : ∀ item result, step item = .ok result ↔ fits item ∧ outcome item = result)
    {items : List α} {results : List β} :
    items.mapM step = .ok results ↔ (∀ item ∈ items, fits item) ∧ items.map outcome = results := by
  simp only [mapM_eq_ok_iff, each, List.forall₂_and_left]
  rw [← List.forall₂_map_left_iff (R := Eq), List.forall₂_eq_eq_eq]

theorem forall₂_of_mapM {step : α → Except ε β} {holds : α → β → Prop} {items : List α}
    {results : List β} (stepped : items.mapM step = .ok results)
    (each : ∀ item ∈ items, ∀ result, step item = .ok result → holds item result) :
    List.Forall₂ holds items results := by
  have both := (List.forall₂_and_left items results).mpr ⟨each, mapM_eq_ok_iff.mp stepped⟩
  exact both.imp fun _ _ given => given.1 _ given.2

theorem getElem?_of_mapM {step : α → Except ε β} {items : List α} {results : List β}
    (stepped : items.mapM step = .ok results) {position : Nat} {item : α}
    (found : items[position]? = some item) :
    ∃ result, results[position]? = some result ∧ step item = .ok result := by
  rw [mapM_eq_ok_iff] at stepped
  induction stepped generalizing position with
  | nil => simp at found
  | cons first rest induction =>
      cases position with
      | zero =>
          rcases Option.some.inj found with rfl
          exact ⟨_, rfl, first⟩
      | succ position => exact induction found

theorem exists_of_forall₂ {relates : α → β → Prop} {items : List α} {results : List β}
    (each : List.Forall₂ relates items results) {result : β} (member : result ∈ results) :
    ∃ item ∈ items, relates item result := by
  induction each with
  | nil => cases member
  | cons first rest induction =>
      rcases List.mem_cons.mp member with rfl | later
      · exact ⟨_, List.mem_cons_self, first⟩
      · rcases induction later with ⟨item, inside, related⟩
        exact ⟨item, List.mem_cons_of_mem _ inside, related⟩

theorem map_eq_of_forall₂ {first : α → γ} {second : β → γ} {items : List α}
    {results : List β}
    (each : List.Forall₂ (fun item result => first item = second result) items results) :
    items.map first = results.map second := by
  rw [← List.forall₂_eq_eq_eq, List.forall₂_map_left_iff, List.forall₂_map_right_iff]
  exact each

theorem forall₂_of_map_eq {first : α → γ} {second : β → γ} {items : List α} {results : List β}
    (equal : items.map first = results.map second) :
    List.Forall₂ (fun item result => first item = second result) items results := by
  rw [← List.forall₂_eq_eq_eq, List.forall₂_map_left_iff, List.forall₂_map_right_iff] at equal
  exact equal

/-- What holds of two lists holds after the first took something over from the second, if it does so
item by item. -/
theorem forall₂_zipWith_left {relates : α → β → Prop} {relates' : γ → δ → Prop}
    {merge : α → β → γ} {view : β → δ} {items : List α} {results : List β}
    (each : List.Forall₂ relates items results)
    (keeps : ∀ item result, relates item result → relates' (merge item result) (view result)) :
    List.Forall₂ relates' (items.zipWith merge results) (results.map view) := by
  induction each with
  | nil => exact .nil
  | cons first _ induction => exact .cons (keeps _ _ first) induction

theorem forall₂_zipWith_right {relates : α → β → Prop} {relates' : α → γ → Prop}
    {merge : α → β → γ} {items : List α} {results : List β}
    (each : List.Forall₂ relates items results)
    (keeps : ∀ item result, relates item result → relates' item (merge item result)) :
    List.Forall₂ relates' items (items.zipWith merge results) := by
  induction each with
  | nil => exact .nil
  | cons first _ induction => exact .cons (keeps _ _ first) induction

theorem filterMap_eq_of_forall₂ {first : α → Option γ} {second : β → Option γ}
    {items : List α} {results : List β}
    (each : List.Forall₂ (fun item result => first item = second result) items results) :
    items.filterMap first = results.filterMap second := by
  have same := congrArg (List.filterMap id) (map_eq_of_forall₂ each)
  rwa [List.filterMap_map, List.filterMap_map] at same

theorem of_mem_of_mapM {step : α → Except ε β} {items : List α} {results : List β}
    (stepped : items.mapM step = .ok results) {result : β} (member : result ∈ results) :
    ∃ item ∈ items, step item = .ok result :=
  exists_of_forall₂ (mapM_eq_ok_iff.mp stepped) member

theorem mem_of_mapM {step : α → Except ε β} {items : List α} {results : List β}
    (stepped : items.mapM step = .ok results) {item : α} (member : item ∈ items) {result : β}
    (made : step item = .ok result) : result ∈ results := by
  rcases List.mem_iff_getElem?.mp member with ⟨position, found⟩
  rcases getElem?_of_mapM stepped found with ⟨other, there, same⟩
  rw [made, Except.ok.injEq] at same
  rw [same]
  exact List.mem_of_getElem? there

theorem mapM_succeeds_iff {step : α → Except ε β} {items : List α} :
    Succeeds (items.mapM step) ↔ ∀ item ∈ items, Succeeds (step item) := by
  simp only [Succeeds, mapM_eq_ok_iff]
  induction items with
  | nil => simp
  | cons item items induction =>
      rw [List.forall_mem_cons, ← induction]
      constructor
      · intro given
        rcases given with ⟨results, each⟩
        rcases List.forall₂_cons_left_iff.mp each with ⟨first, rest, stepped, continued, -⟩
        exact ⟨⟨first, stepped⟩, ⟨rest, continued⟩⟩
      · intro given
        rcases given with ⟨⟨first, stepped⟩, ⟨rest, continued⟩⟩
        exact ⟨first :: rest, .cons stepped continued⟩

theorem exists_split_cons {holds : List α → α → Prop} {head : α} {tail : List α} :
    (∃ before item after, head :: tail = before ++ item :: after ∧ holds before item) ↔
      holds [] head ∨
        ∃ before item after, tail = before ++ item :: after ∧ holds (head :: before) item := by
  constructor
  · intro given
    rcases given with ⟨before, item, after, split, held⟩
    cases before with
    | nil =>
        rcases List.cons.inj split with ⟨rfl, rfl⟩
        exact .inl held
    | cons first before =>
        rcases List.cons.inj split with ⟨rfl, rfl⟩
        exact .inr ⟨before, item, after, rfl, held⟩
  · intro given
    rcases given with held | ⟨before, item, after, rfl, held⟩
    · exact ⟨[], head, tail, rfl, held⟩
    · exact ⟨head :: before, item, after, rfl, held⟩

theorem exists_split_of_getElem? {items : List α} {position : Nat} {item : α}
    (found : items[position]? = some item) :
    ∃ before after, items = before ++ item :: after ∧ before.length = position := by
  rcases List.getElem?_eq_some_iff.mp found with ⟨inside, rfl⟩
  refine ⟨items.take position, items.drop (position + 1), ?_, ?_⟩
  · rw [← List.drop_eq_getElem_cons inside, List.take_append_drop]
  · rw [List.length_take]
    omega

def FailsFirst (step : α → Except ε β) (items : List α) (fault : ε) : Prop :=
  ∃ before item after, items = before ++ item :: after ∧
    (∀ earlier ∈ before, Succeeds (step earlier)) ∧ step item = .error fault

theorem not_failsFirst_nil {step : α → Except ε β} {fault : ε} : ¬ FailsFirst step [] fault := by
  intro given
  rcases given with ⟨before, item, after, split, -⟩
  simp at split

theorem failsFirst_cons {step : α → Except ε β} {item : α} {items : List α} {fault : ε} :
    FailsFirst step (item :: items) fault ↔
      step item = .error fault ∨ (Succeeds (step item) ∧ FailsFirst step items fault) := by
  rw [FailsFirst, exists_split_cons]
  simp only [List.forall_mem_cons, FailsFirst]
  constructor
  · intro given
    rcases given with ⟨-, failed⟩ | ⟨before, failing, after, split, ⟨succeeded, earlier⟩, failed⟩
    · exact .inl failed
    · exact .inr ⟨succeeded, before, failing, after, split, earlier, failed⟩
  · intro given
    rcases given with failed | ⟨succeeded, before, failing, after, split, earlier, failed⟩
    · exact .inl ⟨by simp, failed⟩
    · exact .inr ⟨before, failing, after, split, ⟨succeeded, earlier⟩, failed⟩

theorem mapM_eq_error_iff {step : α → Except ε β} {items : List α} {fault : ε} :
    items.mapM step = .error fault ↔ FailsFirst step items fault := by
  induction items with
  | nil => simp [not_failsFirst_nil, pure, Except.pure]
  | cons item items induction =>
      rw [List.mapM_cons, failsFirst_cons, ← induction, bind_eq_error]
      simp [bind_eq_error, Succeeds, pure, Except.pure]

/-- Steps that each take the parts of an item in a row fail like the same steps for all parts. The
parts come from what goes with the item. -/
theorem mapM_eq_error_iff_of_parts {step : α → Except ε β} {inner : γ → Except ε δ} {η : Type}
    {expand : η → List γ} {items : List α} {wholes : List η} {fault : ε}
    (amounts : List.Forall₂ (fun item whole => ∃ complete : List δ → β,
      step item = ((expand whole).mapM inner).map complete) items wholes) :
    items.mapM step = .error fault ↔ (wholes.flatMap expand).mapM inner = .error fault := by
  induction amounts with
  | nil => simp [pure, Except.pure]
  | @cons item whole items wholes first _ induction =>
      rcases first with ⟨complete, amount⟩
      rw [List.mapM_cons, List.flatMap_cons, List.mapM_append, amount, bind_eq_error,
        bind_eq_error]
      cases (expand whole).mapM inner with
      | error first => simp [Except.map]
      | ok parts => simp [Except.map, bind_eq_error, induction, pure, Except.pure]

theorem mapM_flatMap_eq_error_iff {step : α → Except ε β} {inner : γ → Except ε δ}
    {expand : α → List γ} {complete : α → List δ → β} {items : List α} {fault : ε}
    (amounts : ∀ item ∈ items, step item = ((expand item).mapM inner).map (complete item)) :
    items.mapM step = .error fault ↔ (items.flatMap expand).mapM inner = .error fault :=
  mapM_eq_error_iff_of_parts
    (List.forall₂_same.mpr fun item member => ⟨complete item, amounts item member⟩)

theorem mapM_range_eq {step : Nat → Except ε γ} {inner : α → Except ε β}
    {complete : Nat → α → β → γ} (start : Nat) (items : List α)
    (amounts : ∀ position item, items[position]? = some item →
      step (start + position) = (inner item).map (complete (start + position) item)) :
    (List.range' start items.length).mapM step =
      (items.mapM inner).map fun parts =>
        ((items.zip parts).zipIdx start).map fun ((item, part), position) =>
          complete position item part := by
  induction items generalizing start with
  | nil => rfl
  | cons item items induction =>
      have first := amounts 0 item rfl
      have rest := induction (start + 1) fun position later found => by
        have amount := amounts (position + 1) later found
        rwa [show start + (position + 1) = start + 1 + position by omega] at amount
      rw [List.length_cons, List.range'_succ, List.mapM_cons, List.mapM_cons, rest]
      rw [Nat.add_zero] at first
      rw [first]
      cases inner item with
      | error fault => rfl
      | ok part =>
          cases items.mapM inner <;> rfl

/-! ## Faults that are no rejection -/

/-- The step has a result or a rejection. -/
def Answers (step : Except Fault α) : Prop :=
  Succeeds step ∨ ∃ rejection, step = .error (.rejected rejection)

/-- The step ends with a fault that is no rejection. -/
def Escapes (step : Except Fault α) : Prop :=
  ∃ fault, step = .error fault ∧ ∀ rejection, fault ≠ .rejected rejection

def RefusesOnly (allowed : Rejection → Prop) (step : Except Fault α) : Prop :=
  ∀ rejection, step = .error (.rejected rejection) → allowed rejection

def Unrejected (step : Except Fault α) : Prop := ∀ rejection, step ≠ .error (.rejected rejection)

def Intends (step : Except Fault α) (result : α) : Prop := step = .ok result ∨ Escapes step

theorem answers_iff {step : Except Fault α} : Answers step ↔ ¬ Escapes step := by
  cases step with
  | ok result => simp [Answers, Escapes, Succeeds]
  | error fault => cases fault <;> simp [Answers, Escapes, Succeeds]

theorem not_escapes_of_succeeds {step : Except Fault α} (succeeds : Succeeds step) :
    ¬ Escapes step :=
  answers_iff.mp (.inl succeeds)

theorem not_escapes_ok (result : α) : ¬ Escapes (.ok result : Except Fault α) :=
  not_escapes_of_succeeds (.ok result)

theorem not_escapes_pure (result : α) : ¬ Escapes (pure result : Except Fault α) :=
  not_escapes_ok result

theorem not_escapes_reject (rejection : Rejection) :
    ¬ Escapes (reject rejection : Except Fault α) :=
  answers_iff.mp (.inr ⟨rejection, rfl⟩)

theorem not_escapes_rejectShape (malformation : Malformation) :
    ¬ Escapes (rejectShape malformation : Except Fault α) :=
  not_escapes_reject _

theorem escapes_bind {step : Except Fault α} {next : α → Except Fault β} :
    Escapes (step >>= next) ↔
      Escapes step ∨ ∃ middle, step = .ok middle ∧ Escapes (next middle) := by
  cases step <;> simp [Escapes, bind, Except.bind]

theorem escapes_map {step : Except Fault α} {transform : α → β} :
    Escapes (step.map transform) ↔ Escapes step := by
  cases step <;> simp [Escapes, Except.map]

theorem escapes_mapM {step : α → Except Fault β} {items : List α} :
    Escapes (items.mapM step) ↔
      ∃ before item after, items = before ++ item :: after ∧
        (∀ earlier ∈ before, Succeeds (step earlier)) ∧ Escapes (step item) := by
  simp only [Escapes, mapM_eq_error_iff, FailsFirst]
  constructor
  · intro given
    rcases given with ⟨fault, ⟨before, item, after, split, earlier, failed⟩, escaped⟩
    exact ⟨before, item, after, split, earlier, fault, failed, escaped⟩
  · intro given
    rcases given with ⟨before, item, after, split, earlier, fault, failed, escaped⟩
    exact ⟨fault, ⟨before, item, after, split, earlier, failed⟩, escaped⟩

theorem escapes_iff_of_unrejected {step : Except Fault α} (unrejected : Unrejected step) :
    Escapes step ↔ ¬ Succeeds step := by
  cases step with
  | ok result => simp [Escapes, Succeeds]
  | error fault =>
      have escaped : Escapes (.error fault : Except Fault α) :=
        ⟨fault, rfl, fun rejection equal => unrejected rejection (congrArg Except.error equal)⟩
      simp [escaped, Succeeds]

/-! ### Allowed rejections -/

section RefusesOnly

variable {allowed : Rejection → Prop}

theorem RefusesOnly.imp {step : Except Fault α} {wider : Rejection → Prop}
    (refuses : RefusesOnly allowed step) (wide : ∀ rejection, allowed rejection → wider rejection) :
    RefusesOnly wider step :=
  fun rejection failed => wide rejection (refuses rejection failed)

theorem refusesOnly_ok (result : α) : RefusesOnly allowed (.ok result : Except Fault α) := by
  simp [RefusesOnly]

theorem refusesOnly_reject {rejection : Rejection} (fine : allowed rejection) :
    RefusesOnly allowed (reject rejection : Except Fault α) := by
  intro other failed
  rcases Fault.rejected.inj (Except.error.inj failed) with rfl
  exact fine

theorem refusesOnly_of_unrejected {step : Except Fault α} (unrejected : Unrejected step) :
    RefusesOnly allowed step :=
  fun rejection failed => absurd failed (unrejected rejection)

theorem refusesOnly_bind {step : Except Fault α} {next : α → Except Fault β}
    (first : RefusesOnly allowed step)
    (second : ∀ middle, step = .ok middle → RefusesOnly allowed (next middle)) :
    RefusesOnly allowed (step >>= next) := by
  intro rejection failed
  rcases bind_eq_error.mp failed with failed | ⟨middle, stepped, failed⟩
  · exact first rejection failed
  · exact second middle stepped rejection failed

theorem refusesOnly_map {step : Except Fault α} {transform : α → β}
    (refuses : RefusesOnly allowed step) : RefusesOnly allowed (step.map transform) := by
  cases step with
  | ok result => exact refusesOnly_ok _
  | error fault =>
      intro rejection failed
      exact refuses rejection (congrArg Except.error (Except.error.inj failed))

theorem refusesOnly_mapM {step : α → Except Fault β} {items : List α}
    (each : ∀ item ∈ items, RefusesOnly allowed (step item)) :
    RefusesOnly allowed (items.mapM step) := by
  intro rejection failed
  rcases mapM_eq_error_iff.mp failed with ⟨before, item, after, rfl, -, failed⟩
  exact each item (by simp) rejection failed

end RefusesOnly

/-! ### No rejection -/

theorem unrejected_ok (result : α) : Unrejected (.ok result : Except Fault α) := by
  simp [Unrejected]

theorem unrejected_error {fault : Fault} (other : ∀ rejection, fault ≠ .rejected rejection) :
    Unrejected (.error fault : Except Fault α) := by
  simpa [Unrejected] using other

theorem unrejected_bind {step : Except Fault α} {next : α → Except Fault β}
    (first : Unrejected step) (second : ∀ middle, step = .ok middle → Unrejected (next middle)) :
    Unrejected (step >>= next) :=
  refusesOnly_bind first second

theorem unrejected_map_iff {step : Except Fault α} {transform : α → β} :
    Unrejected (step.map transform) ↔ Unrejected step := by
  cases step <;> simp [Unrejected, Except.map]

theorem unrejected_map {step : Except Fault α} {transform : α → β} (unrejected : Unrejected step) :
    Unrejected (step.map transform) :=
  unrejected_map_iff.mpr unrejected

theorem unrejected_mapM {step : α → Except Fault β} {items : List α}
    (unrejected : ∀ item ∈ items, Unrejected (step item)) : Unrejected (items.mapM step) :=
  refusesOnly_mapM unrejected

theorem unrejected_orFault {fault : Fault} (other : ∀ rejection, fault ≠ .rejected rejection)
    (found : Option α) : Unrejected (orFault fault found) := by
  cases found with
  | none => exact unrejected_error other
  | some result => exact unrejected_ok result

/-! ### Results up to faults that are no rejection -/

theorem intends_ok (result : α) : Intends (.ok result) result := .inl rfl

theorem Intends.eq_ok {step : Except Fault α} {result : α} (intends : Intends step result)
    (answered : ¬ Escapes step) : step = .ok result :=
  intends.resolve_right answered

theorem intends_bind {step : Except Fault α} {next : α → Except Fault β} {middle : α} {result : β}
    (first : Intends step middle) (second : Intends (next middle) result) :
    Intends (step >>= next) result := by
  rcases first with stepped | escaped
  · rw [stepped]
    exact second
  · exact .inr (escapes_bind.mpr (.inl escaped))

theorem intends_map {step : Except Fault α} {transform : α → β} {result : α}
    (intends : Intends step result) : Intends (step.map transform) (transform result) := by
  rcases intends with rfl | escaped
  · exact intends_ok _
  · exact .inr (escapes_map.mpr escaped)

theorem intends_mapM {step : α → Except Fault β} {items : List α} {results : List β}
    (each : List.Forall₂ (fun item result => Intends (step item) result) items results) :
    Intends (items.mapM step) results := by
  induction each with
  | nil => exact intends_ok []
  | cons first _ induction =>
      rw [List.mapM_cons]
      exact intends_bind first (intends_bind induction (intends_ok _))

end ScreenFlow.Outcome
