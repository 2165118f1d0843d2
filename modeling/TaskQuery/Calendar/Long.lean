import TaskQuery.Calendar.DayNumber
import TaskQuery.Calendar.Iso
import TaskQuery.Calendar.Range

set_option autoImplicit false

namespace TaskQuery

def Date.weekdayName (date : Date) : Text :=
  match date.weekday with
  | 0 => "Monday"
  | 1 => "Tuesday"
  | 2 => "Wednesday"
  | 3 => "Thursday"
  | 4 => "Friday"
  | 5 => "Saturday"
  | _ => "Sunday"

def monthName : Nat → Text
  | 1 => "January"
  | 2 => "February"
  | 3 => "March"
  | 4 => "April"
  | 5 => "May"
  | 6 => "June"
  | 7 => "July"
  | 8 => "August"
  | 9 => "September"
  | 10 => "October"
  | 11 => "November"
  | _ => "December"

def ordinalSuffix (n : Nat) : Text :=
  if 11 ≤ n % 100 ∧ n % 100 ≤ 13 then "th"
  else match n % 10 with
    | 1 => "st"
    | 2 => "nd"
    | 3 => "rd"
    | _ => "th"

/-- `2024-01-15 (Monday 15th January 2024)` -/
def Date.long (date : Date) : Text :=
  date.iso ++ " (" ++ date.weekdayName ++ " " ++ Text.ofNat date.day ++ ordinalSuffix date.day ++
    " " ++ monthName date.month ++ " " ++ Text.ofInt date.year ++ ")"

def DateRange.text (range : DateRange) : Text :=
  range.first.iso ++ " to " ++ range.last.iso

end TaskQuery
