import Std.Data.TreeMap.Basic
import TaskQuery.Query.Basic
import TaskQuery.Text.Natural

set_option autoImplicit false

namespace TaskQuery

def Query.accepts (query : Query) (task : Task) : Bool :=
  query.filters.all (·.accepts task)

def Query.compare (query : Query) (a b : Task) : Ordering :=
  query.sorters.foldr (fun sorter rest => (sorter.compare a b).then rest) .eq

def Grouper.keys (grouper : Grouper) (task : Task) : List Text :=
  match grouper.headings task with
  | [] => [[]]
  | headings => headings

/-- Every choice of one heading for each grouper, the choice for the last varying fastest. -/
def Query.paths (query : Query) (task : Task) : List (List Text) :=
  query.groupers.foldr
    (fun grouper paths => (grouper.keys task).flatMap fun key => paths.map (key :: ·)) [[]]

def compareHeadings (a b : List Text) : Ordering :=
  List.compareLex Text.compareNatural a b

def compareExact (a b : List Text) : Ordering :=
  List.compareLex Text.compare a b

structure Group (α : Type) where
  headings : List Text
  members : List α

abbrev GroupMap (α : Type) := Std.TreeMap (List Text) (List α) compareExact

def GroupMap.push {α : Type} (groups : GroupMap α) (path : List Text) (item : α) : GroupMap α :=
  groups.alter path fun members? => some (members?.getD [] ++ [item])

section

-- An item carries a task and may carry more, such as its place in a list.
variable {α : Type} (query : Query) (task : α → Task)

def Query.select (items : List α) : List α :=
  (items.filter (query.accepts <| task ·)).mergeSort
    fun a b => (query.compare (task a) (task b)).isLE

def Query.file (groups : GroupMap α) (item : α) : GroupMap α :=
  (query.paths (task item)).foldl (·.push · item) groups

def Query.split (items : List α) : List (Group α) :=
  let groups := items.foldl (query.file task) ∅
  (groups.toList.map fun entry => ⟨entry.1, entry.2⟩).mergeSort
    fun a b => (compareHeadings a.headings b.headings).isLE

def Query.apply (items : List α) : List (Group α) :=
  if query.groupers.isEmpty then [⟨[], query.select task items⟩]
  else query.split task (query.select task items)

end

end TaskQuery
