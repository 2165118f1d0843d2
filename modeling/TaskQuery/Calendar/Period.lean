import TaskQuery.Calendar.DayNumber
import TaskQuery.Calendar.Range
import TaskQuery.Text.Basic

set_option autoImplicit false

namespace TaskQuery

inductive CalendarUnit where
  | week | month | quarter | year
  deriving DecidableEq, Repr

def CalendarUnit.all : List CalendarUnit := [.week, .month, .quarter, .year]

def CalendarUnit.word : CalendarUnit → Text
  | .week => "week"
  | .month => "month"
  | .quarter => "quarter"
  | .year => "year"

def CalendarUnit.ofWord? (word : Text) : Option CalendarUnit :=
  all.find? (·.word = word)

def Date.firstOfMonth (date : Date) : Date :=
  ⟨date.year, date.month, 1,
    { date.valid with day_ge := Nat.le_refl 1, day_le := monthLength_pos _ _ }⟩

def Date.lastOfMonth (date : Date) : Date :=
  ⟨date.year, date.month, monthLength date.year date.month,
    { date.valid with day_ge := monthLength_pos _ _, day_le := Nat.le_refl _ }⟩

/-- The day with the same number in a month some months away, or the last day of a shorter month. -/
def Date.plusMonths? (date : Date) (months : Int) : Option Date :=
  let count := 12 * date.year + (date.month - 1) + months
  let year := count / 12
  let month := (count % 12 + 1).toNat
  Date.of? year month (min date.day (monthLength year month))

def weekRange? (today : Date) (distance : Int) : Option DateRange := do
  let start ← today.plusDays? (distance * 7 - today.weekday)
  return .between start (← start.plusDays? 6)

def monthRange? (today : Date) (distance : Int) : Option DateRange := do
  let start ← today.firstOfMonth.plusMonths? distance
  return .between start start.lastOfMonth

def quarterRange? (today : Date) (distance : Int) : Option DateRange := do
  let opening ← Date.of? today.year ((today.month - 1) / 3 * 3 + 1) 1
  let start ← opening.plusMonths? (distance * 3)
  let last ← start.plusMonths? 2
  return .between start last.lastOfMonth

def yearRange? (year : Int) : Option DateRange := do
  return .between (← Date.of? year 1 1) (← Date.of? year 12 31)

def CalendarUnit.range? (today : Date) (distance : Int) : CalendarUnit → Option DateRange
  | .week => weekRange? today distance
  | .month => monthRange? today distance
  | .quarter => quarterRange? today distance
  | .year => yearRange? (today.year + distance)

def monthOfYear? (year : Int) (month : Nat) : Option DateRange := do
  let start ← Date.of? year month 1
  return .between start start.lastOfMonth

def quarterOfYear? (year : Int) (quarter : Nat) : Option DateRange := do
  let start ← Date.of? year ((quarter - 1) * 3 + 1) 1
  let last ← Date.of? start.year (quarter * 3) 1
  return .between start last.lastOfMonth

/-- The number of the week that opens a year: the one that holds its fourth of January. -/
def openingWeek (year : Int) : Int :=
  (daysBeforeYear year + 3) / 7

def Date.ofWeek? (year : Int) (week : Nat) (weekday : Int) : Option Date :=
  if 1 ≤ week ∧ openingWeek year + week ≤ openingWeek (year + 1) then
    Date.ofNumber? (7 * (openingWeek year + (week - 1)) + weekday)
  else none

def weekOfYear? (year : Int) (week : Nat) : Option DateRange := do
  return .between (← Date.ofWeek? year week 0) (← Date.ofWeek? year week 6)

end TaskQuery
