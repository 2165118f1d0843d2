import TaskQuery.DateField.Basic
import TaskQuery.Query.Explain
import TaskQuery.Query.Selection
import TaskQuery.Task.File

set_option autoImplicit false

namespace TaskQuery

def DateDisplay.text (display : DateDisplay) (task : Task) : Text :=
  match display with
  | .all => Text.join ", " (task.dates.map Date.iso)
  | .latest => ((Date.latest? task.dates).map Date.iso).getD []
  | .count => Text.ofNat task.count ++ "x"

def Layout.describe (layout : Layout) (task : Task) : Text :=
  if layout.short ∨ task.dates = [] then task.description
  else task.description ++ " [top3: " ++ layout.dates.text task ++ "]"

def Group.lines (layout : Layout) (group : Group Task) : List Text :=
  (if group.headings = [] then [] else ["## " ++ Text.join " > " group.headings]) ++
    group.members.map fun task => "- " ++ layout.describe task

def shownTasks (groups : List (Group Task)) : List Task :=
  groups.flatMap (·.members)

def countLines (layout : Layout) (count : Nat) : List Text :=
  if layout.hides .taskCount then []
  else [[], Text.ofNat count ++ if count = 1 then Text.ofString " task" else Text.ofString " tasks"]

def Query.explanationLines (query : Query) (explain : Bool) : List Text :=
  if explain ∨ query.layout.explained then
    ["Explanation of this query:", [], query.explain, []]
  else []

def Query.report (query : Query) (explain : Bool) (tasks : List Task) : List Text :=
  let groups := query.apply id tasks
  query.explanationLines explain ++ groups.flatMap (Group.lines query.layout) ++
    countLines query.layout (shownTasks groups).length

inductive Failure where
  | queryUnreadable (path : Text)
  | queryInvalid (error : QueryError)
  | noTasks (path : Text) (error : Task.FileError)

def Failure.message : Failure → Text
  | .queryUnreadable path => "failed to read query file " ++ path
  | .queryInvalid error =>
    "invalid query\n\nCaused by:\n    0: " ++ error.text ++ "\n    1: " ++ error.error.text
  | .noTasks path error => error.message path

structure Source where
  path : Text
  content? : Option Text

def reportOn (fields : List Field) (query tasks : Source) (explain : Bool) :
    Except Failure (List Text) := do
  let some content := query.content? | .error (.queryUnreadable query.path)
  let compiled ← (Query.read fields content).mapError .queryInvalid
  let loaded ← (Task.load tasks.content?).mapError (.noTasks tasks.path)
  return compiled.report explain loaded

structure Outcome where
  exitCode : Nat
  output : Text
  complaint : Text
  deriving DecidableEq

def Outcome.of : Except Failure (List Text) → Outcome
  | .ok lines => ⟨0, lines.flatMap (· ++ ['\n']), []⟩
  | .error failure => ⟨1, [], "Error: " ++ failure.message ++ ['\n']⟩

end TaskQuery
