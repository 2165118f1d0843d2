import TaskQuery.Proofs.DateField.Explanation
import TaskQuery.Proofs.Query.Blindness
import TaskQuery.Proofs.Query.Directive

set_option autoImplicit false

namespace TaskQuery

structure Field.Blind (related : Task → Task → Prop) (field : Field) : Prop where
  accepts : ∀ line filter, field.compile line = .ok filter → ∀ task other, related task other →
    filter.accepts task = filter.accepts other
  order : ∀ order, field.compare? = some order → ∀ a b a' b', related a a' → related b b' →
    order a b = order a' b'
  headings : ∀ headings, field.headings? = some headings → ∀ task other, related task other →
    headings task = headings other

theorem Query.blind_of_read {related : Task → Task → Prop} {fields : List Field}
    (blind : ∀ field ∈ fields, field.Blind related) {source : Text} {query : Query}
    (read : Query.read fields source = .ok query) : query.Blind related := by
  obtain ⟨filters, sorters, groupers⟩ := Query.exists_field read
  constructor
  · intro filter member
    obtain ⟨field, known, line, compiled⟩ := filters filter member
    exact (blind field known).accepts line filter compiled
  · intro sorter member
    obtain ⟨field, known, compares⟩ := sorters sorter member
    exact (blind field known).order sorter.order compares
  · intro grouper member
    obtain ⟨field, known, heads⟩ := groupers grouper member
    exact (blind field known).headings grouper.headings heads

structure Task.Reordered (task other : Task) : Prop where
  description : task.description = other.description
  dates : task.dates.Perm other.dates
  count : task.count = other.count

namespace Task.Reordered

variable {task other : Task} (reordered : task.Reordered other)

include reordered

theorem latest? : Date.latest? task.dates = Date.latest? other.dates :=
  Date.latest?_perm reordered.dates

theorem accepts (condition : Condition) :
    condition.accepts task.dates task.count = condition.accepts other.dates other.count := by
  cases condition with
  | dated | undated => simp only [Condition.accepts, reordered.dates.isEmpty_eq]
  | count relation bound => simp only [Condition.accepts, reordered.count]
  | latest relation range => simp only [Condition.accepts, reordered.latest?]

end Task.Reordered

structure DateField.ReadsTask (field : DateField) : Prop where
  dates : field.dates = Task.dates
  count : field.count = Task.count

theorem DateField.ReadsTask.blind {field : DateField} (reads : field.ReadsTask) :
    field.field.Blind Task.Reordered where
  accepts line filter compiled task other reordered := by
    obtain ⟨condition, _, rfl⟩ := (field.compile_eq_ok_iff line filter).mp compiled
    simp only [DateField.accepts, reads.dates, reads.count, reordered.accepts]
  order order known a b a' b' left right := by
    rw [← Option.some.inj known, reads.dates, compareLatest, compareLatest, left.latest?,
      right.latest?]
  headings headings known task other reordered := by
    simp only [← Option.some.inj known, heading, reads.dates, reordered.dates.length_eq]

/-- The tasks that a query gives are those at its places, and the order of the dates of a task says
nothing: two lists of tasks that differ in it alone are selected, ordered and grouped alike, place
by place. -/
theorem Query.places_of_reordered_dates (dates : List DateField)
    (reads : ∀ field ∈ dates, field.ReadsTask) (source : Text) (query : Query)
    (read : Query.read (dates.map DateField.field) source = .ok query) (tasks others : List Task)
    (reordered : List.Forall₂ Task.Reordered tasks others) :
    (∀ list : List Task, query.apply id list = (query.places list).map (Group.map list.get)) ∧
      query.places others =
        (query.places tasks).map (Group.map (Fin.cast reordered.length_eq)) := by
  have blind : ∀ field ∈ dates.map DateField.field, field.Blind Task.Reordered := by
    rw [List.forall_mem_map]
    exact fun field member => (reads field member).blind
  exact ⟨query.apply_eq_places, (Query.blind_of_read blind read).places_eq reordered⟩

def listed : List Task :=
  [⟨"tea", [⟨2024, 5, 2, by decide⟩, ⟨2024, 3, 1, by decide⟩, ⟨2024, 5, 2, by decide⟩], 3⟩,
    ⟨"oats", [], 4⟩]

def shuffled : List Task :=
  [⟨"tea", [⟨2024, 3, 1, by decide⟩, ⟨2024, 5, 2, by decide⟩, ⟨2024, 5, 2, by decide⟩], 3⟩,
    ⟨"oats", [], 4⟩]

theorem shuffled_placed_alike :
    ∃ query, (∀ field ∈ [yearEndField], field.ReadsTask) ∧
      Query.read ([yearEndField].map DateField.field)
        "group by top3\nsort by top3\ntop3 count>2" = .ok query ∧
      query.apply id shuffled = (query.places shuffled).map (Group.map shuffled.get) ∧
      ∃ reordered : List.Forall₂ Task.Reordered listed shuffled,
        query.places shuffled =
          (query.places listed).map (Group.map (Fin.cast reordered.length_eq)) := by
  have read : ∃ query, Query.read ([yearEndField].map DateField.field)
      "group by top3\nsort by top3\ntop3 count>2" = .ok query :=
    ⟨_, by with_unfolding_all rfl⟩
  obtain ⟨query, read⟩ := read
  have reads : ∀ field ∈ [yearEndField], field.ReadsTask := by
    simp only [List.mem_singleton, forall_eq]
    exact ⟨rfl, rfl⟩
  have reordered : List.Forall₂ Task.Reordered listed shuffled :=
    .cons ⟨rfl, .swap _ _ _, rfl⟩ (.cons ⟨rfl, .refl _, rfl⟩ .nil)
  obtain ⟨given, placed⟩ :=
    Query.places_of_reordered_dates [yearEndField] reads _ query read listed shuffled reordered
  exact ⟨query, reads, read, given shuffled, reordered, placed⟩

end TaskQuery
