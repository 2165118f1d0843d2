import TaskQuery.Proofs.DateField.Order
import TaskQuery.Proofs.Query.Directive
import TaskQuery.Proofs.Query.Grouping

set_option autoImplicit false

namespace TaskQuery

section

variable {α : Type} (le : α → α → Bool) (trans : ∀ a b c, le a b → le b c → le a c)
  (total : ∀ a b, le a b || le b a) (kept : α → Bool)

theorem filter_between (item : α) (front back : List α) (greater : ∀ a ∈ front, !le item a)
    (rest : ∀ a ∈ back, le item a) :
    (front ++ back).filter (!le item ·) = front ∧ (front ++ back).filter (le item ·) = back := by
  have kept : front.filter (!le item ·) = front := List.filter_eq_self.mpr greater
  have gone : back.filter (!le item ·) = [] := List.filter_eq_nil_iff.mpr (by simpa using rest)
  have gone' : front.filter (le item ·) = [] := List.filter_eq_nil_iff.mpr (by simpa using greater)
  have kept' : back.filter (le item ·) = back := List.filter_eq_self.mpr rest
  simp only [List.filter_append, kept, gone, gone', kept', List.append_nil, List.nil_append,
    and_self]

include trans total in
theorem mergeSort_filter (items : List α) :
    (items.filter kept).mergeSort le = (items.mergeSort le).filter kept := by
  induction items with
  | nil => simp
  | cons item items ih =>
    obtain ⟨before, after, whole, part, greater⟩ := List.mergeSort_cons trans total item items
    have sorted := List.pairwise_mergeSort trans total (item :: items)
    rw [whole, List.pairwise_append, List.pairwise_cons] at sorted
    by_cases keeps : kept item = true
    · obtain ⟨front, back, whole', part', greater'⟩ :=
        List.mergeSort_cons trans total item (items.filter kept)
      have sorted' := List.pairwise_mergeSort trans total (item :: items.filter kept)
      rw [whole', List.pairwise_append, List.pairwise_cons] at sorted'
      have same : front ++ back = before.filter kept ++ after.filter kept := by
        rw [← part', ih, part, List.filter_append]
      -- The places on the two sides of the item are told apart by comparison with it.
      have new := filter_between le item front back greater' sorted'.2.1.1
      have old := filter_between le item (before.filter kept) (after.filter kept)
        (fun a member => greater a (List.mem_of_mem_filter member))
        (fun a member => sorted.2.1.1 a (List.mem_of_mem_filter member))
      rw [same] at new
      rw [List.filter_cons_of_pos keeps, whole', whole, List.filter_append,
        List.filter_cons_of_pos keeps, ← new.1, ← new.2, old.1, old.2]
    · rw [List.filter_cons_of_neg keeps, ih, part, whole, List.filter_append, List.filter_append,
        List.filter_cons_of_neg keeps]

end

def Group.keep {α : Type} (kept : α → Bool) (group : Group α) : Group α :=
  ⟨group.headings, group.members.filter kept⟩

section

variable {α : Type} (query : Query) (task : α → Task) (kept : α → Bool) (items : List α)
  (total : ∀ sorter ∈ query.sorters, Std.TransCmp sorter.order)

include total in
theorem Query.select_filter :
    query.select task (items.filter kept) = (query.select task items).filter kept := by
  rw [Query.select, Query.select, List.filter_comm]
  exact mergeSort_filter _ (fun a b c => query.isLE_trans total (task a) (task b) (task c))
    (fun a b => query.isLE_total total (task a) (task b)) kept _

theorem Query.membersAt_filter (path : List Text) :
    query.membersAt task path (items.filter kept) =
      (query.membersAt task path items).filter kept := by
  induction items with
  | nil => rfl
  | cons item items ih =>
    simp only [Query.membersAt] at ih
    by_cases keeps : kept item = true <;>
      simp [Query.membersAt, keeps, ih]

theorem Query.split_filter :
    query.split task (items.filter kept) =
      ((query.split task items).map (Group.keep kept)).filter (!·.members.isEmpty) := by
  apply query.split_eq
  · exact (List.pairwise_map.mpr (query.split_increasing task items)).filter _
  · intro group
    rw [List.mem_filter, List.mem_map, query.membersAt_filter, Bool.not_eq_true',
      List.isEmpty_eq_false_iff]
    constructor
    · rintro ⟨⟨whole, member, rfl⟩, nonempty⟩
      obtain ⟨_, same⟩ := (query.mem_split task items whole).mp member
      exact ⟨nonempty, congrArg (List.filter kept) same⟩
    · rintro ⟨nonempty, same⟩
      have filled : query.membersAt task group.headings items ≠ [] := by
        intro empty
        exact nonempty (by rw [same, empty]; rfl)
      exact ⟨⟨_, query.group_mem_split task items group.headings filled, by
        rw [Group.keep, ← same]⟩, nonempty⟩

include total in
theorem Query.apply_filter :
    query.apply task (items.filter kept) =
      if query.groupers.isEmpty then (query.apply task items).map (Group.keep kept)
      else ((query.apply task items).map (Group.keep kept)).filter (!·.members.isEmpty) := by
  unfold Query.apply
  rw [query.select_filter task kept items total]
  split
  next => rfl
  next => exact query.split_filter task kept _

end

section

variable {fields : List Field} {source line : Text} {query part : Query}

theorem Query.read_behind (read : Query.read fields source = .ok query)
    (alone : Query.read fields line = .ok part) :
    ∃ longer, Query.read fields (source ++ '\n' :: line) = .ok longer ∧
      longer.filters = query.filters ++ part.filters ∧
      longer.sorters = query.sorters ++ part.sorters ∧
      longer.groupers = query.groupers ++ part.groupers := by
  obtain ⟨directives, run, rfl⟩ := Query.exists_run read
  obtain ⟨further, run', rfl⟩ := Query.exists_run alone
  have moved := (run'.later source.lines.length).eq
  refine ⟨Query.of (directives ++ further), ?_, ?_⟩
  · rw [Query.read_eq, Text.lines_append_break, readFrom_append, run.eq, moved]
    rfl
  · obtain ⟨filters, sorters, groupers⟩ := Query.lists_foldl directives {}
    obtain ⟨filters', sorters', groupers'⟩ := Query.lists_foldl further {}
    obtain ⟨filters'', sorters'', groupers''⟩ := Query.lists_foldl (directives ++ further) {}
    simp only [Query.of]
    rw [filters, filters', filters'', sorters, sorters', sorters'', groupers, groupers',
      groupers'']
    simp [Query.of]

theorem Query.adds_filter_only (single : '\n' ∉ line)
    (alone : Query.read fields line = .ok part) (adds : part.filters ≠ []) :
    part.sorters = [] ∧ part.groupers = [] := by
  obtain ⟨directives, run, rfl⟩ := Query.exists_run alone
  have each := run.directives directives rfl
  rw [Text.lines_whole line single, said_cons] at each
  split at each
  next =>
    cases each
    exact absurd rfl adds
  next =>
    obtain ⟨directive, _, _, nothing, rfl⟩ := List.forall₂_cons_left_iff.mp each
    cases nothing
    cases directive <;> simp_all [Query.of, Query.add]

end

/-- A filter line behind a document takes the tasks that it rejects out of the groups, and with them
the groups that they alone made up, as if these tasks had never been given. -/
theorem Query.filter_line_narrows (dates : List DateField) (source line : Text)
    (single : '\n' ∉ line) (query part : Query) (filter : Filter)
    (read : Query.read (dates.map DateField.field) source = .ok query)
    (alone : Query.read (dates.map DateField.field) line = .ok part)
    (adds : part.filters = [filter]) :
    ∃ narrower, Query.read (dates.map DateField.field) (source ++ '\n' :: line) = .ok narrower ∧
      ∀ {α : Type} (task : α → Task) (items : List α),
        (narrower.apply task items =
          if query.groupers.isEmpty then
            (query.apply task items).map (Group.keep (filter.accepts <| task ·))
          else
            ((query.apply task items).map (Group.keep (filter.accepts <| task ·))).filter
              (!·.members.isEmpty)) ∧
        narrower.apply task items = query.apply task (items.filter (filter.accepts <| task ·)) := by
  obtain ⟨narrower, behind, filters, sorters, groupers⟩ := Query.read_behind read alone
  obtain ⟨noSorters, noGroupers⟩ := Query.adds_filter_only single alone (by simp [adds])
  rw [adds] at filters
  rw [noSorters, List.append_nil] at sorters
  rw [noGroupers, List.append_nil] at groupers
  refine ⟨narrower, behind, ?_⟩
  intro α task items
  have given : narrower.apply task items =
      query.apply task (items.filter (filter.accepts <| task ·)) := by
    apply Query.apply_of_select _ groupers
    simp [Query.select, Query.accepts, Query.compare, filters, sorters, Bool.and_comm]
  refine ⟨?_, given⟩
  rw [given]
  exact query.apply_filter task _ items (Query.lawful_of_read read (DateField.lawful dates))

def manyReturns : Filter :=
  ⟨"again count>1", againField.accepts (.count .more 1), (Condition.count .more 1).explain "again"⟩

theorem manyReturns_narrows :
    ∃ query part : Query, '\n' ∉ ("again count>1" : Text) ∧
      Query.read [yearEndField.field, againField.field] "group by top3" = .ok query ∧
      Query.read [yearEndField.field, againField.field] "again count>1" = .ok part ∧
      part.filters = [manyReturns] ∧
      ∃ narrower,
        Query.read [yearEndField.field, againField.field]
            (Text.ofString "group by top3" ++ '\n' :: "again count>1") = .ok narrower ∧
        narrower.apply id [⟨"tea", [], 2⟩, ⟨"cake", [], 3⟩] =
          query.apply id [⟨"cake", [], 3⟩] := by
  have single : '\n' ∉ ("again count>1" : Text) := by
    rw [Text.ofString_eq]
    decide
  obtain ⟨query, read⟩ :
      ∃ query, Query.read [yearEndField.field, againField.field] "group by top3" = .ok query :=
    ⟨_, by with_unfolding_all rfl⟩
  have alone : Query.read [yearEndField.field, againField.field] "again count>1" =
      .ok (Query.of [.filter manyReturns]) := by
    with_unfolding_all rfl
  obtain ⟨narrower, behind, narrows⟩ := Query.filter_line_narrows [yearEndField, againField] _ _
    single query _ manyReturns read alone rfl
  have given := (narrows id [⟨"tea", [], 2⟩, ⟨"cake", [], 3⟩]).2
  have kept : List.filter (manyReturns.accepts <| id ·) [⟨"tea", [], 2⟩, ⟨"cake", [], 3⟩] =
      [⟨"cake", [], 3⟩] := by
    rfl
  rw [kept] at given
  exact ⟨query, _, single, read, alone, rfl, narrower, behind, given⟩

end TaskQuery
