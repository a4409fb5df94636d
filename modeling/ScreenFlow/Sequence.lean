namespace ScreenFlow

/-! Positions and order in lists. A position may be negative: it then counts from the end. -/

namespace Sequence

def resolve (length : Nat) : Int → Int
  | .ofNat position => position
  | .negSucc position => length - (position + 1)

def at? (elements : List α) (position : Int) : Option α :=
  match resolve elements.length position with
  | .ofNat index => elements[index]?
  | .negSucc _ => none

def upTo (elements : List α) (boundary : Int) : List α :=
  elements.take (resolve elements.length boundary).toNat

@[simp] theorem at?_ofNat (elements : List α) (index : Nat) :
    at? elements (index : Int) = elements[index]? := rfl

@[simp] theorem upTo_ofNat (elements : List α) (boundary : Nat) :
    upTo elements (boundary : Int) = elements.take boundary := by
  simp [upTo, resolve]

def insertSorted (less : α → α → Bool) (element : α) : List α → List α
  | [] => [element]
  | head :: tail =>
      if less head element then head :: insertSorted less element tail
      else element :: head :: tail

def sort (less : α → α → Bool) (elements : List α) : List α :=
  elements.foldr (insertSorted less) []

def indexed (elements : List α) : List (Nat × α) :=
  indexedFrom 0 elements
where
  indexedFrom (start : Nat) : List α → List (Nat × α)
    | [] => []
    | element :: rest => (start, element) :: indexedFrom (start + 1) rest

example : at? ["a", "b", "c"] (-1) = some "c" := rfl
example : at? ["a"] (-2) = none := rfl
example : upTo ["a", "b", "c"] (-1) = ["a", "b"] := rfl
example : sort (· < ·) [3, 1, 2] = [1, 2, 3] := by decide

end Sequence

end ScreenFlow
