import Mathlib.Algebra.BigOperators.Group.List.Basic
import Mathlib.Data.List.Count
import Mathlib.Data.List.Forall2
import Mathlib.Tactic.Ring
import TaskQuery.Proofs.Query.Sorting
import TaskQuery.Proofs.Text.Natural

set_option autoImplicit false

namespace TaskQuery

theorem compareLex_eq_lt {α : Type} [LT α] (cmp : α → α → Ordering) [Std.LawfulEqCmp cmp]
    (lt_iff : ∀ a b, cmp a b = .lt ↔ a < b) (as bs : List α) :
    List.compareLex cmp as bs = .lt ↔ as < bs := by
  induction as generalizing bs with
  | nil => cases bs <;> simp [List.compareLex_nil_nil, List.compareLex_nil_cons]
  | cons a as ih =>
    cases bs with
    | nil => simp [List.compareLex_cons_nil]
    | cons b bs =>
      rw [List.compareLex_cons_cons, Ordering.then_eq_lt, List.cons_lt_cons_iff, lt_iff, ih,
        Std.LawfulEqCmp.compare_eq_iff_eq]

theorem Text.compare_eq_lt (a b : Text) : Text.compare a b = .lt ↔ a < b :=
  compareLex_eq_lt Ord.compare (fun _ _ => compareOfLessAndEq_eq_lt) a b

theorem comparePaths_eq_lt (a b : List Text) :
    comparePaths a b = .lt ↔
      compareHeadings a b = .lt ∨ compareHeadings a b = .eq ∧ a < b := by
  rw [comparePaths, Ordering.then_eq_lt, compareExact,
    compareLex_eq_lt Text.compare Text.compare_eq_lt]

theorem count_flatMap_cons {α : Type} [BEq α] [LawfulBEq α] (keys : List α) (paths : List (List α))
    (key : α) (path : List α) :
    (keys.flatMap fun key => paths.map (key :: ·)).count (key :: path) =
      keys.count key * paths.count path := by
  induction keys with
  | nil => simp
  | cons other keys ih =>
    -- Only the paths that `key` itself was put in front of start with it.
    have here : (paths.map (other :: ·)).count (key :: path) =
        if other == key then paths.count path else 0 := by
      by_cases same : other = key
      · subst same
        simp [List.count_map_of_injective paths _ (List.cons_injective)]
      · rw [if_neg (by simpa using same), List.count_eq_zero]
        simp [same]
    rw [List.flatMap_cons, List.count_append, here, ih, List.count_cons]
    split <;> ring

section

variable (query : Query) (task : Task)

theorem Query.mem_paths (path : List Text) :
    path ∈ query.paths task ↔
      List.Forall₂ (fun heading (grouper : Grouper) => heading ∈ grouper.keys task)
        path query.groupers := by
  unfold Query.paths
  induction query.groupers generalizing path with
  | nil => simp
  | cons grouper rest ih =>
    simp only [List.foldr_cons, List.mem_flatMap, List.mem_map]
    constructor
    · rintro ⟨key, chosen, tail, tailChosen, rfl⟩
      exact .cons chosen ((ih tail).mp tailChosen)
    · rintro (_ | ⟨chosen, tailChosen⟩)
      exact ⟨_, chosen, _, (ih _).mpr tailChosen, rfl⟩

theorem Query.count_paths (path : List Text) (complete : path.length = query.groupers.length) :
    (query.paths task).count path =
      (List.zipWith (fun heading (grouper : Grouper) => (grouper.keys task).count heading)
        path query.groupers).prod := by
  unfold Query.paths
  generalize query.groupers = groupers at complete ⊢
  induction groupers generalizing path with
  | nil =>
    obtain rfl : path = [] := by simpa using complete
    simp
  | cons grouper rest ih =>
    cases path with
    | nil => simp at complete
    | cons heading path =>
      simp only [List.foldr_cons, count_flatMap_cons, List.zipWith_cons_cons, List.prod_cons]
      rw [ih path (by simpa using complete)]

end

section

variable {α : Type} (query : Query) (task : α → Task) (items : List α)

theorem Query.membersAt_eq (path : List Text) (complete : path.length = query.groupers.length) :
    query.membersAt task path items = items.flatMap fun item =>
      List.replicate (List.zipWith (fun heading (grouper : Grouper) =>
        (grouper.keys (task item)).count heading) path query.groupers).prod item := by
  unfold Query.membersAt
  simp only [query.count_paths _ path complete]

theorem Query.apply_grouped (grouped : query.groupers ≠ []) :
    query.apply task items = query.split task (query.select task items) := by
  simp [Query.apply, grouped]

end

theorem Grouper.keys_eq (grouper : Grouper) (task : Task) :
    grouper.keys task =
      if grouper.headings task = [] then [[]] else grouper.headings task := by
  unfold keys
  split
  next none => rw [if_pos none]
  next some => rw [if_neg some]

/-- The groups of a query stand for the heading paths that some selected item has, in order, and
each holds the selected items in order, as often as the path arises from their headings. An item
without headings has the empty one. -/
theorem Query.apply_groups_exactly {α : Type} (query : Query) (grouped : query.groupers ≠ [])
    (task : α → Task) (items : List α) :
    let headings (grouper : Grouper) (item : α) : List Text :=
      if grouper.headings (task item) = [] then [[]] else grouper.headings (task item)
    ∃ selected, { query with groupers := [] }.apply task items = [⟨[], selected⟩] ∧
      (∀ path, path ∈ (query.apply task items).map Group.headings ↔
        ∃ item ∈ selected, List.Forall₂ (fun heading (grouper : Grouper) =>
          heading ∈ headings grouper item) path query.groupers) ∧
      (∀ group ∈ query.apply task items,
        group.members ≠ [] ∧
        group.members = selected.flatMap fun item =>
          List.replicate (List.zipWith (fun heading (grouper : Grouper) =>
            (headings grouper item).count heading) group.headings query.groupers).prod item) ∧
      ((query.apply task items).map Group.headings).Nodup ∧
      (query.apply task items).Pairwise fun a b =>
        compareHeadings a.headings b.headings = .lt ∨
          compareHeadings a.headings b.headings = .eq ∧ a.headings < b.headings := by
  intro headings
  have keys (grouper : Grouper) (item : α) : headings grouper item = grouper.keys (task item) :=
    (grouper.keys_eq (task item)).symm
  simp only [keys, query.apply_grouped task items grouped]
  refine ⟨query.select task items, Query.apply_ungrouped _ rfl task items, ?_, ?_, ?_, ?_⟩
  · intro path
    simp only [query.mem_split_headings, query.mem_paths]
  · intro group member
    obtain ⟨nonempty, same⟩ := (query.mem_split task _ group).mp member
    have present := List.mem_map_of_mem (f := Group.headings) member
    obtain ⟨item, _, chosen⟩ := (query.mem_split_headings task _ _).mp present
    refine ⟨nonempty, same.trans ?_⟩
    exact query.membersAt_eq task _ _ ((query.mem_paths _ _).mp chosen).length_eq
  · exact query.split_headings_nodup task _
  · refine (query.split_increasing task _).imp ?_
    intro a b before
    exact (comparePaths_eq_lt a.headings b.headings).mp before

def byWordAndCount : Query where
  groupers := [⟨"word", fun task => Text.words task.description⟩,
    ⟨"count", fun task => [Text.ofNat task.count]⟩]

theorem byWordAndCount_groups_exactly :
    byWordAndCount.groupers ≠ [] ∧
      [[], Text.ofNat 10] ∈ (byWordAndCount.apply id [⟨"tea or tea", [], 2⟩, ⟨[], [], 10⟩]).map
        Group.headings ∧
      ∀ group ∈ byWordAndCount.apply id [⟨"tea or tea", [], 2⟩, ⟨[], [], 10⟩],
        group.members ≠ [] := by
  have grouped : byWordAndCount.groupers ≠ [] := List.cons_ne_nil _ _
  obtain ⟨selected, alone, paths, groups, _⟩ :=
    byWordAndCount.apply_groups_exactly grouped id [⟨"tea or tea", [], 2⟩, ⟨[], [], 10⟩]
  refine ⟨grouped, (paths _).mpr ⟨⟨[], [], 10⟩, ?_, ?_⟩,
    fun group member => (groups group member).1⟩
  · rw [Query.apply_ungrouped _ rfl] at alone
    simp only [List.cons.injEq, Group.mk.injEq, true_and, and_true] at alone
    rw [← alone]
    exact (Query.select_perm _ id _).mem_iff.mpr (by simp [Query.accepts, byWordAndCount])
  · exact .cons (by decide) (.cons (by decide) .nil)

end TaskQuery
