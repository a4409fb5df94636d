import ScreenFlow.Rejection

namespace ScreenFlow

/-! The ways in which an operation can end without a result. A rejection concerns the form as its
author wrote it; the other faults come from values that an operation cannot work with. -/

inductive Fault where
  | rejected (rejection : Rejection)
  | wrongKind
  | missingPart
  | badValue
  | outOfRange
  | unknownWord
  | undecodable
  | unencodable
  | malformedJson
  | malformedAddress
  | missingFile
  | notAFile
  | notADirectory
  | closed
  | broken
  | overflow
  | tooDeep
  deriving DecidableEq, Repr

def reject (rejection : Rejection) : Except Fault α := .error (.rejected rejection)

def rejectShape (malformation : Malformation) : Except Fault α :=
  reject (.malformed malformation)

def orFault (fault : Fault) : Option α → Except Fault α
  | some result => .ok result
  | none => .error fault

instance decidableEqExcept [DecidableEq ε] [DecidableEq α] : DecidableEq (Except ε α)
  | .ok left, .ok right => decidable_of_iff (left = right) (by simp)
  | .error left, .error right => decidable_of_iff (left = right) (by simp)
  | .ok _, .error _ => .isFalse (by simp)
  | .error _, .ok _ => .isFalse (by simp)

end ScreenFlow
