import ScreenFlow.Calendar
import ScreenFlow.Number.Binary64
import ScreenFlow.Sequence
import ScreenFlow.Text

namespace ScreenFlow

/-! Values of parsed documents. A document may put any kind of value in any place; what a place
needs is decided when the value is used. A collection may contain itself: it then has a label, and
inside it the label stands for the whole. -/

/-- A value as a document holds it. Mappings keep the order of their entries, and sets have an order
of their own. -/
inductive Value where
  | null
  | bool (flag : Bool)
  | int (number : Int)
  | float (number : Binary64)
  | text (content : Text)
  | list (items : List Value)
  | map (entries : List (Value × Value))
  | date (day : Date)
  | moment (moment : Moment)
  | bytes (content : List UInt8)
  | set (members : List Value)
  | tuple (items : List Value)
  | cyclic (label : Nat) (content : Value)
  | again (label : Nat)
  deriving Repr, Inhabited

namespace Value

/-! ## Identity -/

mutual

/-- Whether two values are built in the same way. Unlike numeric equality this tells `1`, `1.0`
and `true` apart. -/
def identical : Value → Value → Bool
  | .null, .null => true
  | .bool left, .bool right => left == right
  | .int left, .int right => left == right
  | .float left, .float right => decide (left = right)
  | .text left, .text right => left == right
  | .list left, .list right => identicalAll left right
  | .map left, .map right => identicalEntries left right
  | .date left, .date right => decide (left = right)
  | .moment left, .moment right => decide (left = right)
  | .bytes left, .bytes right => left == right
  | .set left, .set right => identicalAll left right
  | .tuple left, .tuple right => identicalAll left right
  | .cyclic label left, .cyclic label' right => label == label' && identical left right
  | .again left, .again right => left == right
  | _, _ => false

def identicalAll : List Value → List Value → Bool
  | [], [] => true
  | left :: lefts, right :: rights => identical left right && identicalAll lefts rights
  | _, _ => false

def identicalEntries : List (Value × Value) → List (Value × Value) → Bool
  | [], [] => true
  | (leftKey, left) :: lefts, (rightKey, right) :: rights =>
      identical leftKey rightKey && identical left right && identicalEntries lefts rights
  | _, _ => false

end

mutual

theorem identical_self : ∀ value : Value, identical value value = true
  | .null => rfl
  | .bool _ | .int _ | .float _ | .text _ | .date _ | .moment _ | .bytes _ | .again _ => by
      simp [identical]
  | .cyclic _ content => by simp [identical, identical_self content]
  | .list items | .set items | .tuple items => by simp [identical, identicalAll_self items]
  | .map entries => by simp [identical, identicalEntries_self entries]

theorem identicalAll_self : ∀ values : List Value, identicalAll values values = true
  | [] => rfl
  | value :: values => by simp [identicalAll, identical_self value, identicalAll_self values]

theorem identicalEntries_self :
    ∀ entries : List (Value × Value), identicalEntries entries entries = true
  | [] => rfl
  | (key, value) :: entries => by
      simp [identicalEntries, identical_self key, identical_self value,
        identicalEntries_self entries]

end

mutual

theorem eq_of_identical : ∀ {left right : Value}, identical left right = true → left = right
  | .list lefts, right => by
      cases right <;> simp [identical]
      exact eq_of_identicalAll
  | .set lefts, right => by
      cases right <;> simp [identical]
      exact eq_of_identicalAll
  | .tuple lefts, right => by
      cases right <;> simp [identical]
      exact eq_of_identicalAll
  | .map lefts, right => by
      cases right <;> simp [identical]
      exact eq_of_identicalEntries
  | .cyclic label left, right => by
      cases right <;> simp [identical]
      exact fun same equal => ⟨same, eq_of_identical equal⟩
  | .null, right | .bool _, right | .int _, right | .float _, right | .text _, right
  | .date _, right | .moment _, right | .bytes _, right | .again _, right => by
      cases right <;> simp [identical]

theorem eq_of_identicalAll :
    ∀ {lefts rights : List Value}, identicalAll lefts rights = true → lefts = rights
  | [], rights => by cases rights <;> simp [identicalAll]
  | left :: lefts, rights => by
      cases rights with
      | nil => simp [identicalAll]
      | cons right rights =>
          simp only [identicalAll, Bool.and_eq_true, List.cons.injEq]
          exact fun equal => ⟨eq_of_identical equal.1, eq_of_identicalAll equal.2⟩

theorem eq_of_identicalEntries :
    ∀ {lefts rights : List (Value × Value)},
      identicalEntries lefts rights = true → lefts = rights
  | [], rights => by cases rights <;> simp [identicalEntries]
  | (leftKey, left) :: lefts, rights => by
      cases rights with
      | nil => simp [identicalEntries]
      | cons entry rights =>
          obtain ⟨rightKey, right⟩ := entry
          simp only [identicalEntries, Bool.and_eq_true, List.cons.injEq, Prod.mk.injEq]
          exact fun equal =>
            ⟨⟨eq_of_identical equal.1.1, eq_of_identical equal.1.2⟩,
              eq_of_identicalEntries equal.2⟩

end

theorem identical_iff {left right : Value} : identical left right = true ↔ left = right :=
  ⟨eq_of_identical, fun equal => equal ▸ identical_self left⟩

instance decidableEq : DecidableEq Value := fun _ _ => decidable_of_iff _ identical_iff

/-! ## Cycles -/

mutual

def substitute (label : Nat) (whole : Value) : Value → Value
  | .again other => if other = label then whole else .again other
  | .cyclic other content => .cyclic other (substitute label whole content)
  | .list items => .list (substituteAll label whole items)
  | .tuple items => .tuple (substituteAll label whole items)
  | .map entries => .map (substituteEntries label whole entries)
  | value => value
termination_by structural value => value

def substituteAll (label : Nat) (whole : Value) : List Value → List Value
  | [] => []
  | value :: values => substitute label whole value :: substituteAll label whole values
termination_by structural values => values

def substituteEntries (label : Nat) (whole : Value) :
    List (Value × Value) → List (Value × Value)
  | [] => []
  | (key, value) :: entries =>
      (key, substitute label whole value) :: substituteEntries label whole entries
termination_by structural entries => entries

end

/-- The content of a collection that contains itself, with the whole in all its places. Any other
value is left as it is. -/
def unroll : Value → Value
  | .cyclic label content => substitute label (.cyclic label content) content
  | value => value

/-! ## Kinds and parts -/

def kindName : Value → String
  | .null => "NoneType"
  | .bool _ => "bool"
  | .int _ => "int"
  | .float _ => "float"
  | .text _ => "str"
  | .list _ => "list"
  | .map _ => "dict"
  | .date _ => "date"
  | .moment _ => "datetime"
  | .bytes _ => "bytes"
  | .set _ => "set"
  | .tuple _ => "tuple"
  | .cyclic _ content => kindName content
  | .again _ => "list"

def isGiven : Value → Bool
  | .null => false
  | .bool flag => flag
  | .int number => number != 0
  | .float number => !number.isZero
  | .text content => !content.isEmpty
  | .list items => !items.isEmpty
  | .map entries => !entries.isEmpty
  | .date _ => true
  | .moment _ => true
  | .bytes content => !content.isEmpty
  | .set members => !members.isEmpty
  | .tuple items => !items.isEmpty
  | .cyclic _ content => isGiven content
  | .again _ => true

def isNull : Value → Bool
  | .null => true
  | _ => false

def length? : Value → Option Nat
  | .text content => some content.length
  | .list items => some items.length
  | .map entries => some entries.length
  | .bytes content => some content.length
  | .set members => some members.length
  | .tuple items => some items.length
  | .cyclic _ content => length? content
  | _ => none

def upTo? (boundary : Int) (value : Value) : Option Value :=
  match value.unroll with
  | .text content => some (.text ⟨Sequence.upTo content.toList boundary⟩)
  | .list items => some (.list (Sequence.upTo items boundary))
  | .bytes content => some (.bytes (Sequence.upTo content boundary))
  | .tuple items => some (.tuple (Sequence.upTo items boundary))
  | _ => none

/-- The parts of a value that can be gone through one by one: the code points of a text, the keys
of a mapping. -/
def parts? (value : Value) : Option (List Value) :=
  match value.unroll with
  | .text content => some (content.toList.map fun point => .text ⟨[point]⟩)
  | .list items => some items
  | .map entries => some (entries.map Prod.fst)
  | .bytes content => some (content.map fun byte => .int byte.toNat)
  | .set members => some members
  | .tuple items => some items
  | _ => none

def count? : Value → Option Nat
  | .bool flag => some (if flag then 1 else 0)
  | .int (.ofNat number) => some number
  | _ => none

/-- The set of some members. It lists whole numbers from zero on first, in ascending order, and then
the latest of the other members first. -/
def setOf (members : List Value) : Value :=
  let (counts, others) := members.partition fun member => member.count?.isSome
  let less (left right : Value) : Bool := left.count?.getD 0 < right.count?.getD 0
  .set (Sequence.sort less counts ++ others.reverse)

def text? : Value → Option Text
  | .text content => some content
  | _ => none

def lookup? (key : Text) (entries : List (Value × Value)) : Option Value :=
  (entries.find? fun entry => entry.1.text? == some key).map Prod.snd

def entry (key : Text) (entries : List (Value × Value)) : Value :=
  (lookup? key entries).getD .null

example : (Value.text "").isGiven = false := rfl
example : (Value.text " ").isGiven = true := by decide
example : (Value.cyclic 0 (.list [.again 0])).unroll =
    .list [.cyclic 0 (.list [.again 0])] := by decide +kernel
example : setOf [.text "x", .int 2, .bool true, .text "y"] =
    .set [.bool true, .int 2, .text "y", .text "x"] := by decide
example : entry "a" [(.int 1, .null), (.text "a", .bool true)] = .bool true := by decide

end Value

end ScreenFlow
