import ScreenFlow.Value

namespace ScreenFlow.Value

/-! Equality of content. Numbers are compared by their size, so that `1`, `1.0` and `true` are the
same, and mappings and sets regardless of order. The undefined number differs from itself, unless
`undefined` says that there is but one. -/

def whole? : Value → Option Int
  | .bool flag => some (if flag then 1 else 0)
  | .int number => some number
  | _ => none

def samePlain (undefined : Bool) : Value → Value → Bool
  | .null, .null => true
  | .text left, .text right => left == right
  | .date left, .date right => decide (left = right)
  | .moment left, .moment right => left.same right
  | .again _, .again _ => true
  | .bytes left, .bytes right => left == right
  | .float .nan, .float .nan => undefined
  | .float left, .float right => left.same right
  | .float left, right => right.whole?.any left.sameInt
  | left, .float right => left.whole?.any right.sameInt
  | left, right =>
      match left.whole?, right.whole? with
      | some left, some right => left == right
      | _, _ => false

mutual

def sameGiven (undefined : Bool) : Value → Value → Bool
  | .list left, .list right => sameAll undefined left right
  | .tuple left, .tuple right => sameAll undefined left right
  | .set left, .set right => left.length == right.length && membersWithin undefined left right
  | .map left, .map right => left.length == right.length && entriesWithin undefined left right
  | .cyclic _ left, .cyclic _ right => sameGiven undefined left right
  | left, right => samePlain undefined left right
termination_by structural left => left

def sameAll (undefined : Bool) : List Value → List Value → Bool
  | [], [] => true
  | left :: lefts, right :: rights =>
      sameGiven undefined left right && sameAll undefined lefts rights
  | _, _ => false
termination_by structural lefts => lefts

def membersWithin (undefined : Bool) : List Value → List Value → Bool
  | [], _ => true
  | left :: lefts, rights =>
      rights.any (sameGiven undefined left) && membersWithin undefined lefts rights
termination_by structural lefts => lefts

def entriesWithin (undefined : Bool) : List (Value × Value) → List (Value × Value) → Bool
  | [], _ => true
  | (key, value) :: lefts, rights =>
      (rights.any fun entry =>
        sameGiven undefined key entry.1 && sameGiven undefined value entry.2) &&
        entriesWithin undefined lefts rights
termination_by structural lefts => lefts

end

def same (left right : Value) : Bool := sameGiven false left right

theorem same_text (left right : Text) : same (.text left) (.text right) = (left == right) := rfl

/-- Whether values of this kind can be told apart by a key: lists, mappings and sets change, so
they cannot stand as keys. -/
def isKey : Value → Bool
  | .list _ | .map _ | .set _ | .cyclic .. | .again _ => false
  | _ => true

/-- Put a value under a key. A key that is already there keeps its place and its first form. -/
def insertEntry (key value : Value) : List (Value × Value) → List (Value × Value)
  | [] => [(key, value)]
  | entry :: entries =>
      if same entry.1 key then (entry.1, value) :: entries
      else entry :: insertEntry key value entries

example : same (.int 1) (.bool true) = true := by decide
example : same (.float .nan) (.float .nan) = false := by decide
example : same (.map [(.text "a", .int 1), (.text "b", .null)])
    (.map [(.text "b", .null), (.text "a", .int 1)]) = true := by decide

end ScreenFlow.Value
