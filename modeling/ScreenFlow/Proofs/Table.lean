import Mathlib.Data.List.Induction
import Mathlib.Data.List.Nodup
import ScreenFlow.Ordered

namespace ScreenFlow.Ordered

/-! Laws of tables. As long as no key comes twice, a table is the list of its entries: new keys are
put at the end, and entering the keys of its last part again replaces that part. Where keys come
again, a table whose values follow from the keys by a rule keeps each key at its first place. -/

variable {κ α β : Type}

@[simp] theorem keys_nil : keys ([] : List (κ × α)) = [] := rfl

@[simp] theorem keys_cons (entry : κ × α) (table : List (κ × α)) :
    keys (entry :: table) = entry.1 :: keys table := rfl

@[simp] theorem keys_append (table entries : List (κ × α)) :
    keys (table ++ entries) = keys table ++ keys entries := List.map_append

theorem mem_keys_of_mem {entry : κ × α} {table : List (κ × α)} (member : entry ∈ table) :
    entry.1 ∈ keys table := List.mem_map_of_mem member

/-- The table in which each of some names has the value that a rule gives it. -/
def tabulate (rule : κ → α) (names : List κ) : List (κ × α) :=
  names.map fun name => (name, rule name)

variable {rule : κ → α} {name : κ} {names : List κ}

@[simp] theorem tabulate_cons (rule : κ → α) (name : κ) (names : List κ) :
    tabulate rule (name :: names) = (name, rule name) :: tabulate rule names := rfl

@[simp] theorem tabulate_append (rule : κ → α) (names more : List κ) :
    tabulate rule (names ++ more) = tabulate rule names ++ tabulate rule more := List.map_append

@[simp] theorem keys_tabulate (rule : κ → α) (names : List κ) :
    keys (tabulate rule names) = names := by
  simp [keys, tabulate, Function.comp_def]

theorem tabulate_congr {other : κ → α} (same : ∀ name ∈ names, rule name = other name) :
    tabulate rule names = tabulate other names :=
  List.map_congr_left fun name member => by rw [same name member]

/-! ## Entering values -/

variable [DecidableEq κ]

theorem insert_of_not_mem {key : κ} {table : List (κ × α)} (value : α)
    (fresh : key ∉ keys table) : insert key value table = table ++ [(key, value)] := by
  induction table with
  | nil => rfl
  | cons head table induction =>
      rcases head with ⟨other, old⟩
      simp only [keys_cons, List.mem_cons, not_or] at fresh
      rw [insert, if_neg (Ne.symm fresh.1), induction fresh.2, List.cons_append]

theorem insert_after {key : κ} {front : List (κ × α)} (old value : α)
    (back : List (κ × α)) (fresh : key ∉ keys front) :
    insert key value (front ++ (key, old) :: back) = front ++ (key, value) :: back := by
  induction front with
  | nil => simp [insert]
  | cons head front induction =>
      rcases head with ⟨other, held⟩
      simp only [keys_cons, List.mem_cons, not_or] at fresh
      rw [List.cons_append, insert, if_neg (Ne.symm fresh.1), induction fresh.2, List.cons_append]

@[simp] theorem update_nil (table : List (κ × α)) : update table [] = table := rfl

theorem update_cons (table : List (κ × α)) (entry : κ × α)
    (entries : List (κ × α)) :
    update table (entry :: entries) = update (insert entry.1 entry.2 table) entries := rfl

theorem update_append (table entries more : List (κ × α)) :
    update table (entries ++ more) = update (update table entries) more := List.foldl_append

theorem update_of_nodup {table entries : List (κ × α)}
    (distinct : (keys (table ++ entries)).Nodup) : update table entries = table ++ entries := by
  induction entries generalizing table with
  | nil => simp
  | cons entry entries induction =>
      have fresh : entry.1 ∉ keys table := by
        rw [keys_append, List.nodup_append] at distinct
        exact fun member => distinct.2.2 _ member _ (by simp) rfl
      rw [update_cons, insert_of_not_mem entry.2 fresh, induction (by simpa using distinct),
        List.append_assoc, List.singleton_append]

theorem ofEntries_of_nodup {entries : List (κ × α)} (distinct : (keys entries).Nodup) :
    ofEntries entries = entries :=
  update_of_nodup distinct

theorem update_back {front back entries : List (κ × α)}
    (distinct : (keys (front ++ back)).Nodup) (sameKeys : keys entries = keys back) :
    update (front ++ back) entries = front ++ entries := by
  induction entries generalizing front back with
  | nil =>
      have noBack : back = [] := by simpa [keys] using sameKeys.symm
      simp [noBack]
  | cons entry entries induction =>
      cases back with
      | nil => simp at sameKeys
      | cons replaced back =>
          rcases replaced with ⟨key, old⟩
          rw [keys_cons, keys_cons, List.cons.injEq] at sameKeys
          rcases sameKeys with ⟨rfl, sameKeys⟩
          have fresh : entry.1 ∉ keys front := by
            rw [keys_append, List.nodup_append] at distinct
            exact fun member => distinct.2.2 _ member _ (by simp) rfl
          have moved : front ++ entry :: back = (front ++ [entry]) ++ back := by simp
          rw [update_cons, insert_after old entry.2 back fresh, moved,
            induction (by simpa using distinct) sameKeys, List.append_assoc,
            List.singleton_append]

/-! ## Tables with a rule -/

theorem eraseDups_concat (names : List κ) (name : κ) :
    (names ++ [name]).eraseDups =
      if name ∈ names then names.eraseDups else names.eraseDups ++ [name] := by
  rw [List.eraseDups_append, List.removeAll]
  split <;> simp_all [List.eraseDups_cons]

theorem nodup_eraseDups (names : List κ) : names.eraseDups.Nodup := by
  induction names using List.reverseRecOn with
  | nil => exact List.nodup_nil
  | append_singleton names name induction =>
      rw [eraseDups_concat]
      split
      · exact induction
      · next fresh =>
          rw [← List.concat_eq_append, List.nodup_concat, List.mem_eraseDups]
          exact ⟨fresh, induction⟩

theorem insert_tabulate (distinct : names.Nodup) (member : name ∈ names) (value : α) :
    insert name value (tabulate rule names) = tabulate (Function.update rule name value) names := by
  rcases List.append_of_mem member with ⟨front, back, rfl⟩
  rw [List.nodup_middle, List.nodup_cons, List.mem_append, not_or] at distinct
  have unchanged {part : List κ} (absent : name ∉ part) :
      tabulate (Function.update rule name value) part = tabulate rule part :=
    tabulate_congr fun other there =>
      Function.update_of_ne (ne_of_mem_of_not_mem there absent) value rule
  have fresh : name ∉ keys (tabulate rule front) := by
    rw [keys_tabulate]
    exact distinct.1.1
  rw [tabulate_append, tabulate_cons, insert_after _ _ _ fresh, tabulate_append, tabulate_cons,
    unchanged distinct.1.1, unchanged distinct.1.2, Function.update_self]

/-- A table to which names are entered by a rule has each of them once, in the order in which they
first come. -/
theorem ofEntries_tabulate (rule : κ → α) (names : List κ) :
    ofEntries (tabulate rule names) = tabulate rule names.eraseDups := by
  induction names using List.reverseRecOn with
  | nil => rfl
  | append_singleton names name induction =>
      have step : ofEntries (tabulate rule (names ++ [name])) =
          insert name (rule name) (tabulate rule names.eraseDups) := by
        rw [← induction, tabulate_append, ofEntries, update_append]
        rfl
      rw [step, eraseDups_concat]
      split
      · next member =>
          rw [insert_tabulate (nodup_eraseDups names) (List.mem_eraseDups.mpr member),
            Function.update_eq_self]
      · next fresh =>
          rw [insert_of_not_mem _ (by simpa using fresh), tabulate_append]
          rfl

theorem update_tabulate (distinct : names.Nodup) (rule rule' : κ → α) {entered : List κ}
    (within : ∀ name ∈ entered, name ∈ names) :
    update (tabulate rule names) (tabulate rule' entered) =
      tabulate (fun name => if name ∈ entered then rule' name else rule name) names := by
  induction entered generalizing rule with
  | nil => simp [tabulate]
  | cons name entered induction =>
      rw [List.forall_mem_cons] at within
      rw [tabulate_cons, update_cons, insert_tabulate distinct within.1, induction _ within.2]
      refine tabulate_congr fun other _ => ?_
      by_cases same : other = name <;> simp [same]

/-! ## Looking up -/

theorem find?_of_distinct {key : α → κ} {elements : List α}
    (distinct : (elements.map key).Nodup) {element : α} (member : element ∈ elements) :
    (elements.find? fun other => key other == key element) = some element := by
  induction elements with
  | nil => cases member
  | cons head tail induction =>
      rw [List.map_cons, List.nodup_cons] at distinct
      rcases List.mem_cons.mp member with rfl | later
      · simp
      · have other : key head ≠ key element := fun same =>
          distinct.1 (same ▸ List.mem_map_of_mem later)
        rw [List.find?_cons_of_neg (by simpa using other)]
        exact induction distinct.2 later

theorem find?_eq_some_of_mem {key : κ} {value : α} {table : List (κ × α)}
    (distinct : (keys table).Nodup) (member : (key, value) ∈ table) :
    find? key table = some value := by
  have found := find?_of_distinct distinct member
  rw [find?, found, Option.map_some]

theorem mapM_eq_some_filterMap {read? : β → Option α} {elements : List β}
    (present : ∀ element ∈ elements, (read? element).isSome) :
    elements.mapM read? = some (elements.filterMap read?) := by
  induction elements with
  | nil => rfl
  | cons element elements induction =>
      rw [List.forall_mem_cons] at present
      rcases Option.isSome_iff_exists.mp present.1 with ⟨result, found⟩
      rw [List.mapM_cons, found, induction present.2, List.filterMap_cons_some found]
      rfl

theorem mapM_find?_keys {table : List (κ × α)} (distinct : (keys table).Nodup) :
    ((keys table).mapM fun key => (find? key table).map (Prod.mk key)) = some table := by
  have found : ∀ entry ∈ table,
      (find? entry.1 table).map (Prod.mk entry.1) = some entry := fun entry member => by
    rw [find?_eq_some_of_mem distinct member]
    rfl
  rw [mapM_eq_some_filterMap]
  · rw [keys, List.filterMap_map]
    exact congrArg some ((List.filterMap_congr found).trans List.filterMap_some)
  · intro key member
    rcases List.mem_map.mp member with ⟨entry, inside, rfl⟩
    rw [found entry inside]
    rfl

end ScreenFlow.Ordered
