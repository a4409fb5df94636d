namespace ScreenFlow

/-! Calendar dates and times of day, with the text they are written as. -/

structure Date where
  year : Nat
  month : Nat
  day : Nat
  deriving DecidableEq, Repr, Inhabited

/-- A moment on a day. The offset from universal time is in minutes, if it is known. -/
structure Moment where
  date : Date
  hour : Nat
  minute : Nat
  second : Nat
  microsecond : Nat
  offset : Option Int
  deriving DecidableEq, Repr, Inhabited

def padded (width number : Nat) : String :=
  let digits := toString number
  "".pushn '0' (width - digits.length) ++ digits

namespace Date

def isLeap (year : Nat) : Bool :=
  year % 4 == 0 && (year % 100 != 0 || year % 400 == 0)

def daysInMonth (year month : Nat) : Nat :=
  if month = 2 then (if isLeap year then 29 else 28)
  else if month = 4 ∨ month = 6 ∨ month = 9 ∨ month = 11 then 30
  else 31

def ofParts? (year month day : Nat) : Option Date :=
  if 1 ≤ year ∧ year ≤ 9999 ∧ 1 ≤ month ∧ month ≤ 12 ∧ 1 ≤ day ∧ day ≤ daysInMonth year month then
    some ⟨year, month, day⟩
  else none

def render (date : Date) : String :=
  padded 4 date.year ++ "-" ++ padded 2 date.month ++ "-" ++ padded 2 date.day

def dayNumber (date : Date) : Nat :=
  let past := date.year - 1
  let earlier := (List.range (date.month - 1)).map fun index => daysInMonth date.year (index + 1)
  365 * past + past / 4 - past / 100 + past / 400 + earlier.foldl Nat.add 0 + (date.day - 1)

example : ofParts? 2023 2 29 = none := by decide
example : (Date.mk 2024 2 29).render = "2024-02-29" := by decide +kernel

end Date

namespace Moment

/-- The moment with the given parts, if the time of day exists and the offset is shorter than a
day. -/
def ofParts? (date : Date) (hour minute second microsecond : Nat) (offset : Option Int) :
    Option Moment :=
  if hour < 24 ∧ minute < 60 ∧ second < 60 ∧ offset.all (·.natAbs < 1440) then
    some ⟨date, hour, minute, second, microsecond, offset⟩
  else none

def renderOffset (offset : Int) : String :=
  (if offset < 0 then "-" else "+") ++ padded 2 (offset.natAbs / 60) ++ ":" ++
    padded 2 (offset.natAbs % 60)

def render (moment : Moment) : String :=
  moment.date.render ++ " " ++ padded 2 moment.hour ++ ":" ++ padded 2 moment.minute ++ ":" ++
    padded 2 moment.second ++
    (if moment.microsecond = 0 then "" else "." ++ padded 6 moment.microsecond) ++
    moment.offset.elim "" renderOffset

def instant (moment : Moment) : Int :=
  let minutes : Int :=
    (moment.date.dayNumber * 24 + moment.hour) * 60 + moment.minute - moment.offset.getD 0
  (minutes * 60 + moment.second) * 1000000 + moment.microsecond

/-- Two moments are the same if they name one instant and both or neither know their offset. -/
def same (left right : Moment) : Bool :=
  left.offset.isSome == right.offset.isSome && left.instant == right.instant

end Moment

end ScreenFlow
