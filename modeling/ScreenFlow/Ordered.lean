namespace ScreenFlow

/-! Tables in the order in which their keys were first entered. -/

namespace Ordered

variable {κ α : Type} [DecidableEq κ]

/-- Enter a value. A key that is already there keeps its place and takes the new value. -/
def insert (key : κ) (value : α) : List (κ × α) → List (κ × α)
  | [] => [(key, value)]
  | (head, old) :: rest =>
      if head = key then (head, value) :: rest else (head, old) :: insert key value rest

def update (table : List (κ × α)) (entries : List (κ × α)) : List (κ × α) :=
  entries.foldl (fun table (key, value) => insert key value table) table

def ofEntries (entries : List (κ × α)) : List (κ × α) := update [] entries

def find? (key : κ) (table : List (κ × α)) : Option α :=
  (table.find? fun entry => entry.1 == key).map Prod.snd

def keys (table : List (κ × α)) : List κ := table.map Prod.fst

example : ofEntries [("a", 1), ("b", 2), ("a", 3)] = [("a", 3), ("b", 2)] := by decide

end Ordered

end ScreenFlow
