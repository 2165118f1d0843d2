import TaskQuery.DateField.Grammar

set_option autoImplicit false

namespace TaskQuery

def compareDates : Option Date → Option Date → Ordering
  | some a, some b => compare a b
  | some _, none => .lt
  | none, some _ => .gt
  | none, none => .eq

def compareLatest (dates : Task → List Date) (a b : Task) : Ordering :=
  compareDates (Date.latest? (dates a)) (Date.latest? (dates b))

def DateField.heading (field : DateField) (task : Task) : Text :=
  match (field.dates task).length with
  | 0 => "No " ++ field.name ++ " dates"
  | 1 => field.name.capitalized ++ ": 1 time"
  | n => field.name.capitalized ++ ": " ++ Text.ofNat n ++ " times"

def DateField.field (field : DateField) : Field where
  name := field.name
  recognizes := field.recognizes
  compile := field.compile
  compare? := some (compareLatest field.dates)
  headings? := some fun task => [field.heading task]

def DateField.top3 (today : Date) : DateField :=
  ⟨"top3", today, Task.dates, Task.count⟩

def defaultFields (today : Date) : List Field :=
  [(DateField.top3 today).field]

end TaskQuery
