import TaskQuery.Calendar.Date
import TaskQuery.Text.Digit

set_option autoImplicit false

namespace TaskQuery

inductive DateOrder where
  | yearFirst | dayFirst | monthFirst
  deriving DecidableEq, Repr

def isAsciiBlank (c : Char) : Bool :=
  c == ' ' || c == '\t' || c == '\n' || c == '\x0C' || c == '\r'

def Text.number? (width : Nat) (cs : Text) : Option (Nat × Text) :=
  let cs := cs.dropWhile isAsciiBlank
  let digits := (cs.take width).takeWhile Char.isDigit
  if digits = [] then none else some (value digits, cs.drop digits.length)

-- Blanks may stand behind the sign and not before it.
def Text.year? : Text → Option (Int × Text)
  | '-' :: cs => (number? 4 cs).map fun (year, rest) => (-year, rest)
  | '+' :: cs => (number? 4 cs).map fun (year, rest) => (year, rest)
  | cs => (number? 4 cs).map fun (year, rest) => (year, rest)

def DateOrder.date? (separator : Char) (cs : Text) : DateOrder → Option Date
  | .yearFirst => do
    let (year, cs) ← cs.year?
    let (month, cs) ← (← Text.strip? [separator] cs).number? 2
    let (day, cs) ← (← Text.strip? [separator] cs).number? 2
    if cs = [] then Date.of? year month day else none
  | .dayFirst => do
    let (day, cs) ← cs.number? 2
    let (month, cs) ← (← Text.strip? [separator] cs).number? 2
    let (year, cs) ← (← Text.strip? [separator] cs).year?
    if cs = [] then Date.of? year month day else none
  | .monthFirst => do
    let (month, cs) ← cs.number? 2
    let (day, cs) ← (← Text.strip? [separator] cs).number? 2
    let (year, cs) ← (← Text.strip? [separator] cs).year?
    if cs = [] then Date.of? year month day else none

def isDateSeparator (c : Char) : Bool :=
  c == '-' || c == '/' || c == '.'

def leadsWithYear (separator : Char) (cs : Text) : Bool :=
  (cs.take 4).all Char.isDigit && cs[4]? == some separator

/-- A date in numbers. A text that leads with a year is read in that order alone; in any other the
day comes first, and the month only if that names no day. -/
def separatedDate? (cs : Text) : Option Date := do
  let separator ← cs.find? isDateSeparator
  if leadsWithYear separator cs then DateOrder.yearFirst.date? separator cs
  else (DateOrder.dayFirst.date? separator cs).or (DateOrder.monthFirst.date? separator cs)

end TaskQuery
