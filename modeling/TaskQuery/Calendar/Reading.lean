import TaskQuery.Calendar.Iso
import TaskQuery.Calendar.Period
import TaskQuery.Calendar.Separated
import TaskQuery.Text.Blank

set_option autoImplicit false

namespace TaskQuery

def dayWords : List (Text × Int) :=
  [("today", 0), ("yesterday", -1), ("tomorrow", 1)]

def Date.read? (today : Date) (cs : Text) : Option Date :=
  match dayWords.lookup cs.trim.asciiLower with
  | some distance => today.plusDays? distance
  | none => separatedDate? cs.trim

def periodWords : List (Text × Int) :=
  [("last", -1), ("this", 0), ("next", 1)]

def trailingDays? : CalendarUnit → Option Nat
  | .week => some 7
  | .month => some 30
  | .quarter => none
  | .year => some 365

def periodWord? (cs : Text) : Option (Int × Text) :=
  periodWords.findSome? fun (word, distance) => (word.strip? cs).map fun rest => (distance, rest)

def trailingRange? (today : Date) (cs : Text) : Option DateRange := do
  let days ← trailingDays? (← CalendarUnit.ofWord? cs)
  return .between (← today.plusDays? (-days)) today

/-- `last`, `this`, `next` or `past` with a unit; blanks between and within words are ignored. -/
def relativePeriod? (today : Date) (cs : Text) : Option DateRange :=
  let phrase := cs.unspaced.asciiLower
  match periodWord? phrase with
  | some (distance, rest) => (CalendarUnit.ofWord? rest).bind (·.range? today distance)
  | none => (Text.strip? "past" phrase).bind (trailingRange? today)

def oneOrTwoDigits? (cs : Text) : Option Nat :=
  if cs.isNumber && cs.length ≤ 2 then some cs.value else none

def numberedPeriod? (cs : Text) : Option DateRange := do
  let (year, rest) ← cs.digits? 4
  match rest with
  | [] => yearRange? year
  | ['-', 'Q', n] | ['-', 'q', n] =>
    if '1' ≤ n ∧ n ≤ '4' then quarterOfYear? year (digitValue n) else none
  | '-' :: 'W' :: digits | '-' :: 'w' :: digits => weekOfYear? year (← oneOrTwoDigits? digits)
  | '-' :: digits => monthOfYear? year (← oneOrTwoDigits? digits)
  | _ => none

/-- What stands behind a separator of two dates: `to` or a hyphen between blanks, or two dots. -/
def behindSeparator? (cs : Text) : Option Text :=
  let spaced := cs.takeWhile isBlank ≠ []
  match cs.dropWhile isBlank with
  | '.' :: '.' :: rest => some (Text.trimStart rest)
  | '-' :: c :: rest => if spaced ∧ isBlank c then some (Text.trimStart rest) else none
  | t :: o :: c :: rest =>
    if spaced ∧ t.toLower = 't' ∧ o.toLower = 'o' ∧ isBlank c then some (Text.trimStart rest)
    else none
  | _ => none

def splitRange? : Text → Option (Text × Text)
  | [] => none
  | c :: cs =>
    match behindSeparator? (c :: cs) with
    | some rest => some ([], rest)
    | none => (splitRange? cs).map fun (first, second) => (c :: first, second)

def explicitRange? (today : Date) (cs : Text) : Option DateRange := do
  let (first, second) ← splitRange? cs
  return .between (← Date.read? today first) (← Date.read? today second)

/-- The days that a text means on the day `today`, unless it means a single one. -/
def DateRange.read? (today : Date) (cs : Text) : Option DateRange :=
  (relativePeriod? today cs.trim).or ((numberedPeriod? cs.trim).or (explicitRange? today cs.trim))

end TaskQuery
