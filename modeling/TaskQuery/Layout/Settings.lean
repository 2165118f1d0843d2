import TaskQuery.Json.Basic
import TaskQuery.Layout

set_option autoImplicit false

namespace TaskQuery

def elementKeys : List (Text × Element) :=
  [("hide_toolbar", .toolbar), ("hide_postpone_button", .postponeButton),
    ("hide_task_count", .taskCount), ("hide_backlinks", .backlinks),
    ("hide_edit_button", .editButton), ("hide_urgency", .urgency), ("hide_tree", .tree)]

/-- A choice is written as its word or as the one key of an object, without anything under it. -/
def DateDisplay.ofJson? : Json → Option DateDisplay
  | .object [(word, .null)] => word.text?.bind ofWord?
  | json => json.text?.bind ofWord?

namespace Layout

def modeKeys : List Text := ["short_mode", "explain_query", "top3_display_mode"]

def keys : List Text :=
  elementKeys.map (·.1) ++ modeKeys

def json (layout : Layout) : Json :=
  .record (elementKeys.map (fun (key, element) => (key, .bool (layout.hides element))) ++
    modeKeys.zip [.bool layout.short, .bool layout.explained, .text layout.dates.word])

def ofJson? (json : Json) : Option Layout := do
  let values ← (← json.members? keys).mapM id
  let hidden ← (values.take elementKeys.length).mapM Json.bool?
  let [short, explained, dates] := values.drop elementKeys.length | none
  return {
    hides := fun element => (element, true) ∈ (elementKeys.map (·.2)).zip hidden
    short := ← short.bool?
    explained := ← explained.bool?
    dates := ← DateDisplay.ofJson? dates }

end Layout
end TaskQuery
