import TaskQuery.Calendar.Iso
import TaskQuery.Json.Reading
import TaskQuery.Task

set_option autoImplicit false

namespace TaskQuery

namespace Task

def keys : List Text := ["description", "top3_dates", "top3_count"]

def json (task : Task) : Json :=
  .record [("description", .text task.description),
    ("top3_dates", .array (task.dates.map fun date => .text date.iso)),
    ("top3_count", .nat task.count)]

def readDate? (json : Json) : Option Date :=
  json.text?.bind Date.ofIso?

def readDates? (json : Json) : Option (List Date) :=
  json.items?.bind (·.mapM readDate?)

def readCount? : Option Json → Option (Option Nat)
  | none | some Json.null => some none
  | some json => (json.literal?.bind countOf?).map some

/-- A task from a record: no dates if it gives none, and as many as it has dates if it gives no
count. -/
def ofJson? (json : Json) : Option Task := do
  let [some description, dates, count] ← json.members? keys | none
  let description ← description.text?
  let dates ← (dates.map readDates?).getD (some [])
  let count ← readCount? count
  return ⟨description, dates, count.getD dates.length⟩

def readFile? (cs : Text) : Option (List Task) :=
  (Json.read? cs).bind fun json => json.items?.bind (·.mapM ofJson?)

inductive FileError where
  | unreadable
  | malformed
  deriving DecidableEq, Repr

def FileError.message (path : Text) : FileError → Text
  | .unreadable => "failed to read task file " ++ path
  | .malformed => "failed to parse task file " ++ path

def load (content? : Option Text) : Except FileError (List Task) :=
  match content? with
  | none => .error .unreadable
  | some content =>
    match readFile? content with
    | none => .error .malformed
    | some tasks => .ok tasks

def writeFile (tasks : List Task) : Text :=
  (Json.array (tasks.map json)).render

end Task
end TaskQuery
