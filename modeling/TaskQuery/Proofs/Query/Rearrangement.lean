import TaskQuery.Proofs.Query.Document
import TaskQuery.Proofs.Query.Sorting

set_option autoImplicit false

namespace TaskQuery

section

variable (fields : List Field)

def Query.alone (line : Text) : Query :=
  (Query.read fields line).toOption.getD {}

/-- The lines of a source that add to one part of its query, in order. -/
def linesAdding {β : Type} (part : Query → List β) (source : Text) : List Text :=
  (said source.lines).filter fun line => !(part (Query.alone fields line)).isEmpty

def filterLines : Text → List Text := linesAdding fields Query.filters

def sortLines : Text → List Text := linesAdding fields Query.sorters

def groupLines : Text → List Text := linesAdding fields Query.groupers

theorem flatMap_filter_isEmpty {α β : Type} (parts : α → List β) (items : List α) :
    (items.filter fun item => !(parts item).isEmpty).flatMap parts = items.flatMap parts := by
  induction items with
  | nil => rfl
  | cons item items ih =>
    cases empty : parts item <;> simp [empty, ih]

theorem eq_map_alone {lines : List Text} {parts : List Query}
    (each : List.Forall₂ (fun line part => Query.read fields line = .ok part) lines parts) :
    parts = lines.map (Query.alone fields) := by
  induction each with
  | nil => rfl
  | cons read _ ih => simp [Query.alone, read, Except.toOption, ← ih]

theorem Query.parts_of_lines (source : Text) (query : Query)
    (read : Query.read fields source = .ok query) :
    query.filters = (filterLines fields source).flatMap (Query.filters ∘ Query.alone fields) ∧
      query.sorters = (sortLines fields source).flatMap (Query.sorters ∘ Query.alone fields) ∧
      query.groupers = (groupLines fields source).flatMap (Query.groupers ∘ Query.alone fields) := by
  obtain ⟨parts, each, filters, sorters, groupers⟩ := Query.exists_parts fields source query read
  obtain rfl := eq_map_alone fields each
  have whole {β : Type} (part : Query → List β) :
      ((said source.lines).map (Query.alone fields)).flatMap part =
        (linesAdding fields part source).flatMap (part ∘ Query.alone fields) := by
    rw [List.flatMap_map]
    exact (flatMap_filter_isEmpty (part ∘ Query.alone fields) _).symm
  exact ⟨filters.trans (whole _), sorters.trans (whole _), groupers.trans (whole _)⟩

theorem Query.accepts_of_filterLines (source : Text) (query : Query)
    (read : Query.read fields source = .ok query) (task : Task) :
    query.accepts task = true ↔
      ∀ line ∈ filterLines fields source, (Query.alone fields line).accepts task = true := by
  simp only [Query.accepts, (Query.parts_of_lines fields source query read).1, List.all_eq_true,
    List.mem_flatMap, Function.comp_apply]
  constructor
  · intro accepts line member filter added
    exact accepts filter ⟨line, member, added⟩
  · rintro accepts filter ⟨line, member, added⟩
    exact accepts line member filter added

/-- Two documents with the same filter lines, in any order and any number, and the same sequences
of sort lines and of group lines select and group alike, whatever stands between these lines. -/
theorem Query.apply_rearranged (source other : Text) (query query' : Query)
    (read : Query.read fields source = .ok query) (read' : Query.read fields other = .ok query')
    (filters : ∀ line, line ∈ filterLines fields source ↔ line ∈ filterLines fields other)
    (sorters : sortLines fields source = sortLines fields other)
    (groupers : groupLines fields source = groupLines fields other)
    {α : Type} (task : α → Task) (items : List α) :
    query.apply task items = query'.apply task items := by
  obtain ⟨_, sorted, grouped⟩ := Query.parts_of_lines fields source query read
  obtain ⟨_, sorted', grouped'⟩ := Query.parts_of_lines fields other query' read'
  apply Query.apply_congr
  · intro task
    rw [Bool.eq_iff_iff, Query.accepts_of_filterLines fields source query read,
      Query.accepts_of_filterLines fields other query' read']
    simp only [filters]
  · rw [sorted, sorters, sorted']
  · rw [grouped, groupers, grouped']

end

def orderly : Text := "no top3 date\ntop3 count>1\nsort by top3"

def scattered : Text := "top3 count>1\nsort by top3\nno top3 date\ntop3 count>1"

theorem scattered_lines_apply_alike :
    ∃ query query' : Query, Query.read [yearEndField.field] orderly = .ok query ∧
      Query.read [yearEndField.field] scattered = .ok query' ∧
      (∀ line, line ∈ filterLines [yearEndField.field] orderly ↔
        line ∈ filterLines [yearEndField.field] scattered) ∧
      sortLines [yearEndField.field] orderly = sortLines [yearEndField.field] scattered ∧
      groupLines [yearEndField.field] orderly = groupLines [yearEndField.field] scattered ∧
      query.apply id [⟨"tea", [], 2⟩] = query'.apply id [⟨"tea", [], 2⟩] := by
  have filters : filterLines [yearEndField.field] orderly =
      [Text.ofString "no top3 date", "top3 count>1"] := by
    with_unfolding_all rfl
  have filters' : filterLines [yearEndField.field] scattered =
      [Text.ofString "top3 count>1", "no top3 date", "top3 count>1"] := by
    with_unfolding_all rfl
  have same : ∀ line, line ∈ filterLines [yearEndField.field] orderly ↔
      line ∈ filterLines [yearEndField.field] scattered := by
    intro line
    simp only [filters, filters', List.mem_cons, List.not_mem_nil, or_false]
    tauto
  have sorters : sortLines [yearEndField.field] orderly = [Text.ofString "sort by top3"] := by
    with_unfolding_all rfl
  have sorters' : sortLines [yearEndField.field] scattered = [Text.ofString "sort by top3"] := by
    with_unfolding_all rfl
  have groupers : groupLines [yearEndField.field] orderly = [] := by
    with_unfolding_all rfl
  have groupers' : groupLines [yearEndField.field] scattered = [] := by
    with_unfolding_all rfl
  obtain ⟨query, read⟩ : ∃ query, Query.read [yearEndField.field] orderly = .ok query :=
    ⟨_, by with_unfolding_all rfl⟩
  obtain ⟨query', read'⟩ : ∃ query, Query.read [yearEndField.field] scattered = .ok query :=
    ⟨_, by with_unfolding_all rfl⟩
  exact ⟨query, query', read, read', same, sorters.trans sorters'.symm,
    groupers.trans groupers'.symm, Query.apply_rearranged _ _ _ query query' read read' same
      (sorters.trans sorters'.symm) (groupers.trans groupers'.symm) id _⟩

end TaskQuery
