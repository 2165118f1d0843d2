import TaskQuery.Calendar.Date
import TaskQuery.Text.Digit

set_option autoImplicit false

namespace TaskQuery

def countOf? (digits : Text) : Option Nat :=
  if digits.isNumber ∧ digits.value < UInt64.size then some digits.value else none

/-- A task with the days it was a top-three task. Whoever produces a task keeps its count, which
need not be the number of its dates. -/
structure Task where
  description : Text
  dates : List Date
  count : Nat
  deriving DecidableEq

def Task.of (description : Text) (dates : List Date) : Task :=
  ⟨description, dates, dates.length⟩

def Date.later (a b : Date) : Date :=
  if a < b then b else a

def Date.latest? : List Date → Option Date
  | [] => none
  | date :: dates => some (dates.foldl later date)

end TaskQuery
