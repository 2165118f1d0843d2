import Mathlib.Data.List.FinRange
import Mathlib.Data.List.Perm.Basic
import TaskQuery.Proofs.Query.Directive
import TaskQuery.Proofs.Query.Grouping
import TaskQuery.Proofs.Query.Rearrangement
import TaskQuery.Report

set_option autoImplicit false

namespace TaskQuery

section

variable {κ : Type} [BEq κ] [LawfulBEq κ]

theorem sum_map_ite_beq (keys : List κ) (choice : κ) :
    (keys.map fun key => if choice == key then 1 else 0).sum = keys.count choice := by
  induction keys with
  | nil => rfl
  | cons key keys ih =>
    rw [List.map_cons, List.sum_cons, ih, List.count_cons, BEq.comm, Nat.add_comm]

theorem sum_map_count (keys choices : List κ) (nodup : keys.Nodup)
    (covered : ∀ choice ∈ choices, choice ∈ keys) :
    (keys.map (choices.count ·)).sum = choices.length := by
  induction choices with
  | nil => simp
  | cons choice choices ih =>
    rw [List.forall_mem_cons] at covered
    simp only [List.count_cons, List.sum_map_add, ih covered.2, sum_map_ite_beq,
      List.count_eq_one_of_mem nodup covered.1, List.length_cons]

theorem flatMap_replicate_count {α : Type} (keys choices : List κ) (nodup : keys.Nodup)
    (covered : ∀ choice ∈ choices, choice ∈ keys) (item : α) :
    keys.flatMap (fun key => List.replicate (choices.count key) item) =
      List.replicate choices.length item := by
  rw [List.eq_replicate_iff]
  constructor
  · simpa [List.length_flatMap] using sum_map_count keys choices nodup covered
  · intro copy member
    obtain ⟨key, _, copies⟩ := List.mem_flatMap.mp member
    exact List.eq_of_mem_replicate copies

end

section

variable {α : Type} (query : Query) (task : α → Task) (items : List α)

theorem Query.flatMap_membersAt_perm (keys : List (List Text)) (nodup : keys.Nodup)
    (covered : ∀ item ∈ items, ∀ path ∈ query.paths (task item), path ∈ keys) :
    (keys.flatMap fun path => query.membersAt task path items).Perm
      (items.flatMap fun item => List.replicate (query.paths (task item)).length item) := by
  induction items with
  | nil => simp [Query.membersAt]
  | cons item items ih =>
    rw [List.forall_mem_cons] at covered
    have first := flatMap_replicate_count keys (query.paths (task item)) nodup covered.1 item
    have parts := List.flatMap_append_perm keys
      (fun path => List.replicate ((query.paths (task item)).count path) item)
      (fun path => query.membersAt task path items)
    rw [first] at parts
    exact parts.symm.trans ((ih covered.2).append_left _)

theorem Query.members_perm :
    ((query.apply task items).flatMap Group.members).Perm
      ((query.select task items).flatMap fun item =>
        List.replicate (query.paths (task item)).length item) := by
  by_cases grouped : query.groupers = []
  · simp [query.apply_ungrouped grouped, Query.paths, grouped]
  · have members : (query.split task (query.select task items)).flatMap Group.members =
        ((query.split task (query.select task items)).map Group.headings).flatMap fun path =>
          query.membersAt task path (query.select task items) := by
      rw [List.flatMap_map]
      apply List.flatMap_congr
      intro group member
      exact ((query.mem_split task _ group).mp member).2
    rw [query.apply_grouped task items grouped, members]
    apply query.flatMap_membersAt_perm _ _ _ (query.split_headings_nodup task _)
    intro item member path chosen
    exact (query.mem_split_headings task _ path).mpr ⟨item, member, chosen⟩

end

theorem Query.paths_length (query : Query) (task : Task) :
    (query.paths task).length =
      (query.groupers.map fun grouper => (grouper.keys task).length).prod := by
  unfold Query.paths
  induction query.groupers with
  | nil => rfl
  | cons grouper rest ih =>
    simp [List.length_flatMap, ih]

def Query.Single (query : Query) : Prop :=
  ∀ grouper ∈ query.groupers, ∀ task, (grouper.keys task).length = 1

namespace Query.Single

variable {query : Query} (single : query.Single)

include single

theorem paths_length (task : Task) : (query.paths task).length = 1 := by
  rw [Query.paths_length]
  apply List.prod_eq_one
  simpa using fun grouper member => single grouper member task

/-- The groups together hold the accepted items, each as often as it was given. -/
theorem members_perm {α : Type} (task : α → Task) (items : List α) :
    ((query.apply task items).flatMap Group.members).Perm
      (items.filter (query.accepts <| task ·)) := by
  have once : ((query.select task items).flatMap fun item =>
      List.replicate (query.paths (task item)).length item) = query.select task items := by
    simp [single.paths_length]
  have shown := query.members_perm task items
  rw [once] at shown
  exact shown.trans (query.select_perm task items)

end Query.Single

def Query.shownPlaces (query : Query) (tasks : List Task) : List (Fin tasks.length) :=
  (query.places tasks).flatMap Group.members

section

variable {query : Query} (single : query.Single) (tasks : List Task)

include single

theorem Query.Single.shownPlaces_perm : (query.shownPlaces tasks).Perm
    ((List.finRange tasks.length).filter (query.accepts <| tasks.get ·)) :=
  single.members_perm tasks.get (List.finRange tasks.length)

theorem Query.Single.shownPlaces_nodup : (query.shownPlaces tasks).Nodup :=
  (single.shownPlaces_perm tasks).nodup_iff.mpr ((List.nodup_finRange _).filter _)

theorem Query.Single.mem_shownPlaces (place : Fin tasks.length) :
    place ∈ query.shownPlaces tasks ↔ query.accepts (tasks.get place) = true := by
  simp [(single.shownPlaces_perm tasks).mem_iff]

theorem Query.Single.shownPlaces_length :
    (query.shownPlaces tasks).length = tasks.countP query.accepts := by
  have whole : tasks.countP query.accepts =
      ((List.finRange tasks.length).map tasks.get).countP query.accepts := by
    rw [List.map_get_finRange]
  rw [(single.shownPlaces_perm tasks).length_eq, whole, List.countP_map, List.countP_eq_length_filter]
  rfl

end

def Layout.taskLine (layout : Layout) (task : Task) : Text :=
  if layout.short ∨ task.dates = [] then "- " ++ task.description
  else "- " ++ task.description ++ " [top3: " ++ layout.dates.text task ++ "]"

/-- What is printed of the tasks at some places: an account of the query if one is asked for, a line
for each place under the headings of its group, and a number of tasks if it is not hidden. -/
def Query.page (query : Query) (explain : Bool) (tasks : List Task)
    (groups : List (Group (Fin tasks.length))) (count : Nat) : List Text :=
  let account : List Text :=
    if explain ∨ query.layout.explained then
      ["Explanation of this query:", [], query.explain, []]
    else []
  let shown := groups.flatMap fun group =>
    let heading : List Text :=
      if group.headings = [] then [] else ["## " ++ Text.join " > " group.headings]
    heading ++ group.members.map fun place => query.layout.taskLine (tasks.get place)
  let counted : List Text :=
    if query.layout.hides .taskCount then []
    else if count = 1 then [[], Text.ofNat count ++ " task"]
    else [[], Text.ofNat count ++ " tasks"]
  account ++ shown ++ counted

theorem Layout.taskLine_eq (layout : Layout) (task : Task) :
    layout.taskLine task = "- " ++ layout.describe task := by
  unfold taskLine describe
  split <;> simp

theorem countLines_eq (layout : Layout) (count : Nat) : countLines layout count =
    if layout.hides .taskCount then ([] : List Text)
    else if count = 1 then ([[], Text.ofNat count ++ " task"] : List Text)
    else ([[], Text.ofNat count ++ " tasks"] : List Text) := by
  unfold countLines
  split_ifs <;> rfl

theorem Query.report_eq_page (query : Query) (explain : Bool) (tasks : List Task) :
    query.report explain tasks =
      query.page explain tasks (query.places tasks) (query.shownPlaces tasks).length := by
  have count : (shownTasks (query.apply id tasks)).length = (query.shownPlaces tasks).length := by
    simp [query.apply_eq_places, shownTasks, Query.shownPlaces, List.length_flatMap,
      List.flatMap_map, Group.map]
  have lines (group : Group (Fin tasks.length)) :
      (group.map tasks.get).lines query.layout =
        (if group.headings = [] then ([] : List Text)
          else ["## " ++ Text.join " > " group.headings]) ++
          group.members.map fun place => query.layout.taskLine (tasks.get place) := by
    rw [Group.lines, Group.map, List.map_map]
    simp only [Layout.taskLine_eq]
    rfl
  rw [Query.report, Query.page, count, countLines_eq, query.apply_eq_places, List.flatMap_map]
  simp only [lines]
  rfl

/-- What a query prints of a list of tasks if each task that its filters accept is shown once. -/
structure Query.ShowsAccepted (query : Query) (explain : Bool) (tasks : List Task)
    (lines : List Text) : Prop where
  printed : lines =
    query.page explain tasks (query.places tasks) (tasks.countP query.accepts)
  once : (query.shownPlaces tasks).Nodup
  accepted : ∀ place, place ∈ query.shownPlaces tasks ↔
    ∀ filter ∈ query.filters, filter.accepts (tasks.get place) = true

theorem Query.Single.showsAccepted {query : Query} (single : query.Single) (explain : Bool)
    (tasks : List Task) : query.ShowsAccepted explain tasks (query.report explain tasks) where
  printed := by rw [query.report_eq_page, single.shownPlaces_length]
  once := single.shownPlaces_nodup tasks
  accepted place := by rw [single.mem_shownPlaces, Query.accepts, List.all_eq_true]

section

variable {fields : List Field}

theorem Query.single_of_read {source : Text} {query : Query}
    (read : Query.read fields source = .ok query)
    (once : ∀ field ∈ fields, ∀ headings, field.headings? = some headings →
      ∀ task, (headings task).length = 1) : query.Single := by
  intro grouper member task
  obtain ⟨field, known, heads⟩ := (Query.exists_field read).2.2 grouper member
  have one := once field known grouper.headings heads task
  obtain ⟨heading, shape⟩ := List.length_eq_one_iff.mp one
  simp [Grouper.keys, shape]

theorem reportOn_eq_ok (query tasks : Source) (explain : Bool) (lines : List Text) :
    reportOn fields query tasks explain = .ok lines ↔ ∃ content compiled loaded,
      query.content? = some content ∧ Query.read fields content = .ok compiled ∧
        Task.load tasks.content? = .ok loaded ∧ lines = compiled.report explain loaded := by
  unfold reportOn
  cases query.content? with
  | none => simp
  | some content =>
    cases read : Query.read fields content with
    | error error => simp [read, bind, Except.bind, Except.mapError]
    | ok compiled =>
      cases Task.load tasks.content? with
      | error error => simp [read, bind, Except.bind, Except.mapError]
      | ok loaded => simp [read, bind, Except.bind, Except.mapError, pure, Except.pure, eq_comm]

end

theorem DateField.heads_once (dates : List DateField) : ∀ field ∈ dates.map DateField.field,
    ∀ headings, field.headings? = some headings → ∀ task, (headings task).length = 1 := by
  rw [List.forall_mem_map]
  intro field _ headings known task
  cases known
  rfl

def pantry : List Task :=
  [⟨"tea", [⟨2024, 1, 5, by decide⟩], 1⟩, ⟨"rye", [], 7⟩, ⟨"oats", [], 0⟩]

def pantryFile : Source :=
  ⟨"tasks.json", some "[[\"tea\",[\"2024-01-05\"],1],[\"rye\",[],7],[\"oats\",[],0]]"⟩

def fewCounts : Filter :=
  ⟨"top3 count < 3", yearEndField.accepts (.count .less 3), (Condition.count .less 3).explain "top3"⟩

def fewGrouped : Text := "group by top3\nsort by top3 reverse\ntop3 count < 3\nshort mode"

def fewUncounted : Text := "hide task count\ntop3 count < 3"

def fewGroupedQuery : Query where
  filters := [fewCounts]
  sorters := [⟨"top3", compareLatest Task.dates, true⟩]
  groupers := [⟨"top3", fun task => [yearEndField.heading task]⟩]
  layout := { short := true }

end TaskQuery
