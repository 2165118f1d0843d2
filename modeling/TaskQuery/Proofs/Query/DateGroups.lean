import Mathlib.Data.Set.List
import TaskQuery.Proofs.DateField.Heading
import TaskQuery.Proofs.Query.Directive
import TaskQuery.Proofs.Query.Grouping

set_option autoImplicit false

namespace TaskQuery

section

-- A query that puts each task under one heading, which stands for a key of the task.
variable {query : Query} {κ : Type} (key : Task → κ) (heading : κ → Text)
  (keyed : ∀ task, query.paths task = [[heading (key task)]])
  {α : Type} (task : α → Task) (items : List α)

include keyed

theorem Query.membersAt_keyed [DecidableEq κ] (injective : ∀ a b, heading a = heading b ↔ a = b)
    (k : κ) : query.membersAt task [heading k] items =
      items.filter fun item => key (task item) = k := by
  rw [Query.membersAt]
  induction items with
  | nil => rfl
  | cons item items ih =>
    rw [List.flatMap_cons, ih, keyed, List.filter_cons]
    by_cases same : key (task item) = k <;> simp [same, injective]

theorem Query.exists_keys [DecidableEq κ] (injective : ∀ a b, heading a = heading b ↔ a = b) :
    ∃ keys : List κ, query.split task items = keys.map (fun k =>
        ⟨[heading k], items.filter fun item => key (task item) = k⟩) ∧
      (∀ k, k ∈ keys ↔ ∃ item ∈ items, key (task item) = k) ∧
      keys.Pairwise fun a b => comparePaths [heading a] [heading b] = .lt := by
  have ranged : query.split task items ∈ Set.range (List.map fun k : κ =>
      (⟨[heading k], items.filter fun item => key (task item) = k⟩ : Group α)) := by
    rw [Set.range_list_map]
    intro group member
    have present := List.mem_map_of_mem (f := Group.headings) member
    obtain ⟨item, _, chosen⟩ := (query.mem_split_headings task items _).mp present
    rw [keyed, List.mem_singleton] at chosen
    have same := ((query.mem_split task items group).mp member).2
    rw [chosen, query.membersAt_keyed key heading keyed task items injective] at same
    refine ⟨key (task item), ?_⟩
    simp only [← chosen, ← same]
  obtain ⟨keys, shape⟩ := ranged
  refine ⟨keys, shape.symm, ?_, ?_⟩
  · intro k
    have present := query.mem_split_headings task items [heading k]
    simpa [← shape, keyed, injective, eq_comm] using present
  · have increasing := query.split_increasing task items
    rwa [← shape, List.pairwise_map] at increasing

end

theorem comparePaths_singleton {a b : Text} (apart : a.compareNatural b ≠ .eq) :
    comparePaths [a] [b] = a.compareNatural b := by
  cases order : a.compareNatural b with
  | lt => simp [comparePaths, compareHeadings, List.compareLex_cons_cons, order]
  | gt => simp [comparePaths, compareHeadings, List.compareLex_cons_cons, order]
  | eq => exact absurd order apart

theorem exists_dated (first : Bool) (before : Nat → Nat → Prop) (apart : ∀ n, ¬ before n n)
    (counts : List Nat) (ordered : counts.Pairwise before)
    (rising : ∀ a b, 0 < a → 0 < b → before a b → a < b)
    (behind : ∀ n, before 0 n → first = true) (ahead : ∀ n, before n 0 → first = false) :
    ∃ dated : List Nat, dated.Pairwise (· < ·) ∧ (∀ n ∈ dated, 0 < n) ∧
      (counts = dated ∨ counts = if first then 0 :: dated else dated ++ [0]) := by
  have increasing (some : List Nat) (inside : some.Sublist counts) (positive : ∀ n ∈ some, 0 < n) :
      some.Pairwise (· < ·) :=
    (ordered.sublist inside).imp_of_mem fun a b => rising _ _ (positive _ a) (positive _ b)
  by_cases undated : 0 ∈ counts
  · obtain ⟨front, back, rfl⟩ := List.append_of_mem undated
    rw [List.pairwise_append, List.pairwise_cons] at ordered
    obtain ⟨_, ⟨later, _⟩, earlier⟩ := ordered
    have earlier (n : Nat) (member : n ∈ front) : before n 0 := earlier n member 0 (by simp)
    have positive : ∀ n ∈ front ++ back, 0 < n := by
      intro n member
      apply Nat.pos_of_ne_zero
      rintro rfl
      rcases List.mem_append.mp member with inside | inside
      · exact apart 0 (earlier 0 inside)
      · exact apart 0 (later 0 inside)
    refine ⟨front ++ back, increasing _ (by simp) positive, positive, .inr ?_⟩
    -- The zero stands there once, with nothing in front of it or with nothing behind it.
    cases first with
    | true =>
      cases front with
      | nil => rfl
      | cons n _ => cases ahead n (earlier n (by simp))
    | false =>
      cases back with
      | nil => simp
      | cons n _ => cases behind n (later n (by simp))
  · have positive : ∀ n ∈ counts, 0 < n := fun n member =>
      Nat.pos_of_ne_zero fun zero => undated (zero ▸ member)
    exact ⟨counts, increasing _ (List.Sublist.refl _) positive, positive, .inl rfl⟩

section

variable (field : DateField)

theorem DateField.exists_dated_headings (counts : List Nat)
    (ordered : counts.Pairwise fun a b =>
      comparePaths [field.headingOf a] [field.headingOf b] = .lt) :
    ∃ dated : List Nat, dated.Pairwise (· < ·) ∧ (∀ n ∈ dated, 0 < n) ∧
      (counts = dated ∨ counts = if field.undatedFirst then 0 :: dated else dated ++ [0]) := by
  have apart (n : Nat) : ¬ comparePaths [field.headingOf n] [field.headingOf n] = .lt :=
    comparePaths_irrefl _
  have compared {a b : Nat} (differ : a ≠ b) := comparePaths_singleton
    (field.compare_headingOf_ne differ)
  refine exists_dated _ _ apart counts ordered ?_ ?_ ?_
  · intro a b positive positive' before
    have differ : a ≠ b := fun same => apart b (same ▸ before)
    rw [compared differ, field.compare_headingOf positive positive' differ] at before
    exact Nat.compare_eq_lt.mp before
  · intro n before
    have differ : 0 ≠ n := fun same => apart n (same ▸ before)
    rw [compared differ, field.compare_undatedHeading (Nat.pos_of_ne_zero differ.symm)] at before
    split at before
    next first => exact first
    next => cases before
  · intro n before
    have differ : n ≠ 0 := fun same => apart 0 (same ▸ before)
    rw [compared differ, field.compare_headingOf_undated (Nat.pos_of_ne_zero differ)] at before
    split at before
    next => cases before
    next last => exact Bool.eq_false_iff.mpr last

theorem DateField.paths_eq {query : Query} {fields : List Field} {source : Text}
    (read : Query.read fields source = .ok query) {grouper : Grouper}
    (only : query.groupers = [grouper])
    (names : Field.find? fields grouper.property = some field.field) (task : Task) :
    query.paths task = [[field.headingOf (field.dates task).length]] := by
  obtain ⟨_, _, arises⟩ := (Query.exists_line read).2.2 grouper (by simp [only])
  have known := arises.of_group.2
  rw [names, Option.bind_some] at known
  have headings : (fun task => [field.heading task]) = grouper.headings := Option.some.inj known
  simp [← headings, Query.paths, only, Grouper.keys, field.heading_eq]

/-- A query that only groups by a date field puts tasks together that have the same number of dates.
The groups are in the order of these numbers, but for the tasks without dates, which the name of the
field puts in front of all others or behind them. -/
theorem Query.groups_by_number_of_dates {fields : List Field} {source : Text} {query : Query}
    (read : Query.read fields source = .ok query) (grouper : Grouper)
    (only : query.groupers = [grouper])
    (names : Field.find? fields grouper.property = some field.field)
    {α : Type} (task : α → Task) (items : List α) :
    (∀ a ∈ query.select task items, ∀ b ∈ query.select task items,
      (∃ group ∈ query.apply task items, a ∈ group.members ∧ b ∈ group.members) ↔
        (field.dates (task a)).length = (field.dates (task b)).length) ∧
    ∃ dated counts : List Nat, dated.Pairwise (· < ·) ∧ (∀ n ∈ dated, 0 < n) ∧
      (counts = dated ∨ counts = if field.undatedFirst then 0 :: dated else dated ++ [0]) ∧
      (∀ n, n ∈ counts ↔ ∃ item ∈ query.select task items, (field.dates (task item)).length = n) ∧
      query.apply task items = counts.map fun n =>
        ⟨[field.headingOf n],
          (query.select task items).filter fun item => (field.dates (task item)).length = n⟩ := by
  have keyed := field.paths_eq read only names
  obtain ⟨counts, groups, present, ordered⟩ := Query.exists_keys _ field.headingOf keyed task
    (query.select task items) field.headingOf_inj
  obtain ⟨dated, increasing, positive, shape⟩ := field.exists_dated_headings counts ordered
  rw [← query.apply_grouped task items (by simp [only])] at groups
  refine ⟨?_, dated, counts, increasing, positive, shape, present, groups⟩
  intro a selected b selected'
  simp only [groups, List.mem_map]
  constructor
  · rintro ⟨_, ⟨n, _, rfl⟩, inside, inside'⟩
    simp only [List.mem_filter, decide_eq_true_eq] at inside inside'
    rw [inside.2, inside'.2]
  · intro same
    refine ⟨_, ⟨(field.dates (task b)).length, (present _).mpr ⟨b, selected', rfl⟩, rfl⟩, ?_⟩
    simp [selected, selected', same]

end

def streetField : DateField :=
  { yearEndField with name := "ßtreet 2" }

def byStreet : Query where
  groupers := [⟨"ßtreet 2", fun task => [streetField.heading task]⟩]

def walk (description : Text) (times count : Nat) : Task :=
  ⟨description, List.replicate times yearEndField.today, count⟩

def walks : List Task :=
  [walk "park" 10 2, walk "lake" 0 2, walk "hill" 2 7, walk "moor" 2 10]

theorem walks_grouped_by_number_of_dates :
    Query.read [streetField.field] "group by ßtreet 2" = .ok byStreet ∧
      Field.find? [streetField.field] "ßtreet 2" = some streetField.field ∧
      (∃ group ∈ byStreet.apply id walks,
        walk "hill" 2 7 ∈ group.members ∧ walk "moor" 2 10 ∈ group.members) ∧
      (¬ ∃ group ∈ byStreet.apply id walks,
        walk "park" 10 2 ∈ group.members ∧ walk "hill" 2 7 ∈ group.members) ∧
      ∃ counts : List Nat, 0 ∈ counts ∧ 2 ∈ counts ∧ 10 ∈ counts ∧
        (counts.filter (0 < ·)).Pairwise (· < ·) ∧
        (byStreet.apply id walks).map Group.headings =
          counts.map fun n => [streetField.headingOf n] := by
  have read : Query.read [streetField.field] "group by ßtreet 2" = .ok byStreet := by
    with_unfolding_all rfl
  have names : Field.find? [streetField.field] "ßtreet 2" = some streetField.field := by
    with_unfolding_all rfl
  obtain ⟨together, dated, counts, increasing, positive, shape, present, groups⟩ :=
    Query.groups_by_number_of_dates streetField read _ rfl names id walks
  have selected (task : Task) : task ∈ byStreet.select id walks ↔ task ∈ walks := by
    rw [(byStreet.select_perm id walks).mem_iff]
    simp [Query.accepts, show byStreet.filters = [] from rfl]
  simp only [selected] at together present
  refine ⟨read, names, ?_, ?_, counts, ?_, ?_, ?_, ?_, ?_⟩
  · exact (together _ (by simp [walks]) _ (by simp [walks])).mpr rfl
  · rw [together _ (by simp [walks]) _ (by simp [walks])]
    decide
  · exact (present 0).mpr ⟨walk "lake" 0 2, by simp [walks], rfl⟩
  · exact (present 2).mpr ⟨walk "hill" 2 7, by simp [walks], rfl⟩
  · exact (present 10).mpr ⟨walk "park" 10 2, by simp [walks], rfl⟩
  · have kept : counts.filter (0 < ·) = dated := by
      have whole : dated.filter (0 < ·) = dated := by
        simpa [List.filter_eq_self] using positive
      rcases shape with rfl | rfl
      · exact whole
      · split <;> simpa using whole
    rwa [kept]
  · rw [groups, List.map_map]
    rfl

end TaskQuery
