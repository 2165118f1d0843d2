import TaskQuery.Proofs.Query.Blindness

set_option autoImplicit false

namespace TaskQuery

-- The order of a list of sorters, built along the list so that its laws follow by induction.
def Sorter.chain : List Sorter → Task → Task → Ordering
  | [] => fun _ _ => .eq
  | sorter :: rest => compareLex sorter.compare (chain rest)

theorem Query.compare_eq_chain (query : Query) : query.compare = Sorter.chain query.sorters := by
  funext a b
  unfold Query.compare
  induction query.sorters with
  | nil => rfl
  | cons sorter rest ih => simp only [List.foldr_cons, ih, Sorter.chain, compareLex]

theorem Sorter.transCmp_compare (sorter : Sorter) (total : Std.TransCmp sorter.order) :
    Std.TransCmp sorter.compare := by
  by_cases reverse : sorter.reverse = true
  · have swapped : sorter.compare = fun a b => sorter.order b a := by
      funext a b
      rw [Sorter.compare, if_pos reverse]
      exact Std.OrientedCmp.eq_swap.symm
    rw [swapped]
    exact Std.TransCmp.opposite
  · have kept : sorter.compare = sorter.order := by
      funext a b
      rw [Sorter.compare, if_neg reverse]
    rwa [kept]

theorem Sorter.transCmp_chain (sorters : List Sorter)
    (total : ∀ sorter ∈ sorters, Std.TransCmp sorter.order) :
    Std.TransCmp (Sorter.chain sorters) := by
  induction sorters with
  | nil =>
    exact
      { eq_swap := rfl
        isLE_trans := fun _ _ => rfl }
  | cons sorter rest ih =>
    have first := sorter.transCmp_compare (total sorter (by simp))
    have later := ih fun sorter member => total sorter (List.mem_cons_of_mem _ member)
    exact inferInstanceAs (Std.TransCmp (compareLex sorter.compare (Sorter.chain rest)))

theorem Sorter.compare_eq_eq (sorter : Sorter) (a b : Task) :
    sorter.compare a b = .eq ↔ sorter.order a b = .eq := by
  unfold Sorter.compare
  split
  · exact Ordering.swap_eq_eq
  · exact Iff.rfl

theorem Sorter.chain_eq_eq (sorters : List Sorter) (a b : Task) :
    Sorter.chain sorters a b = .eq ↔ ∀ sorter ∈ sorters, sorter.order a b = .eq := by
  induction sorters with
  | nil => simp [Sorter.chain]
  | cons sorter rest ih =>
    rw [Sorter.chain, compareLex_eq_eq, Sorter.compare_eq_eq, ih, List.forall_mem_cons]

theorem Sorter.chain_append (earlier rest : List Sorter) (a b : Task)
    (ties : ∀ sorter ∈ earlier, sorter.order a b = .eq) :
    Sorter.chain (earlier ++ rest) a b = Sorter.chain rest a b := by
  induction earlier with
  | nil => rfl
  | cons sorter earlier ih =>
    have tie := (sorter.compare_eq_eq a b).mpr (ties sorter (by simp))
    have later := ih fun sorter member => ties sorter (List.mem_cons_of_mem _ member)
    simp only [List.cons_append, Sorter.chain, compareLex, tie, later, Ordering.then]

/-- The first sorter that tells two tasks apart puts the first one in front. -/
def Sorter.InOrder (sorters : List Sorter) (a b : Task) : Prop :=
  ∀ earlier sorter later, sorters = earlier ++ sorter :: later →
    (∀ other ∈ earlier, other.order a b = .eq) → sorter.order a b ≠ .eq →
      sorter.order a b = if sorter.reverse then .gt else .lt

theorem Sorter.inOrder_of_isLE (sorters : List Sorter) (a b : Task)
    (le : (Sorter.chain sorters a b).isLE) : Sorter.InOrder sorters a b := by
  intro earlier sorter later shape ties apart
  rw [shape, Sorter.chain_append earlier _ a b ties] at le
  have decided : sorter.compare a b ≠ .eq := fun tie => apart ((sorter.compare_eq_eq a b).mp tie)
  have front : sorter.compare a b = .lt := by
    cases first : sorter.compare a b with
    | lt => rfl
    | eq => exact absurd first decided
    | gt => simp [Sorter.chain, compareLex, first, Ordering.then] at le
  unfold Sorter.compare at front
  split at front
  next reverse => rw [if_pos reverse, Ordering.swap_eq_lt.mp front]
  next reverse => rw [if_neg reverse, front]

section

variable {α : Type} (query : Query)
  (total : ∀ sorter ∈ query.sorters, Std.TransCmp sorter.order)

include total in
theorem Query.transCmp_compare : Std.TransCmp query.compare := by
  rw [query.compare_eq_chain]
  exact Sorter.transCmp_chain query.sorters total

include total in
theorem Query.isLE_trans (a b c : Task) (ab : (query.compare a b).isLE)
    (bc : (query.compare b c).isLE) : (query.compare a c).isLE := by
  have := query.transCmp_compare total
  exact Std.TransCmp.isLE_trans ab bc

include total in
theorem Query.isLE_total (a b : Task) :
    (query.compare a b).isLE || (query.compare b a).isLE := by
  have := query.transCmp_compare total
  exact isLE_or_isLE query.compare a b

theorem Query.select_map (task : α → Task) (items : List α) :
    query.select id (items.map task) = (query.select task items).map task :=
  query.blind_eq.select_map fun _ _ => rfl

theorem Query.apply_ungrouped (ungrouped : query.groupers = []) (task : α → Task)
    (items : List α) : query.apply task items = [⟨[], query.select task items⟩] := by
  simp [Query.apply, ungrouped]

theorem Query.apply_of_select {query other : Query} {task : α → Task} {items others : List α}
    (select : query.select task items = other.select task others)
    (groupers : query.groupers = other.groupers) :
    query.apply task items = other.apply task others := by
  have paths : query.paths = other.paths := by
    funext item
    simp only [Query.paths, groupers]
  have filed : query.file task = other.file task := by
    funext groups item
    simp only [Query.file, paths]
  simp only [Query.apply, Query.split, select, filed, groupers]

theorem Query.apply_congr {query other : Query}
    (filters : ∀ task, query.accepts task = other.accepts task)
    (sorters : query.sorters = other.sorters) (groupers : query.groupers = other.groupers)
    (task : α → Task) (items : List α) : query.apply task items = other.apply task items := by
  apply Query.apply_of_select _ groupers
  simp only [Query.select, Query.compare, filters, sorters]

theorem Query.select_perm (task : α → Task) (items : List α) :
    (query.select task items).Perm (items.filter (query.accepts <| task ·)) :=
  List.mergeSort_perm _ _

include total in
theorem Query.select_inOrder (task : α → Task) (items : List α) :
    (query.select task items).Pairwise fun a b =>
      Sorter.InOrder query.sorters (task a) (task b) := by
  have sorted : (query.select task items).Pairwise fun a b =>
      (query.compare (task a) (task b)).isLE :=
    List.pairwise_mergeSort (fun a b c => query.isLE_trans total (task a) (task b) (task c))
      (fun a b => query.isLE_total total (task a) (task b)) _
  refine sorted.imp ?_
  intro a b le
  apply Sorter.inOrder_of_isLE
  rwa [← query.compare_eq_chain]

include total in
theorem Query.select_stable (task : α → Task) (place : α → Nat) (items : List α)
    (increasing : items.Pairwise (place · < place ·)) :
    (query.select task items).Pairwise fun a b =>
      (∀ sorter ∈ query.sorters, sorter.order (task a) (task b) = .eq) → place a < place b := by
  have stable := mergeSort_stable (fun a b => (query.compare (task a) (task b)).isLE)
    (fun a b c => query.isLE_trans total (task a) (task b) (task c))
    (fun a b => query.isLE_total total (task a) (task b)) (place · < place ·)
    (items.filter (query.accepts <| task ·)) (increasing.filter _)
  refine stable.imp ?_
  intro a b orderly ties
  have := query.transCmp_compare total
  have tie : query.compare (task a) (task b) = .eq := by
    rw [query.compare_eq_chain]
    exact (Sorter.chain_eq_eq query.sorters _ _).mpr ties
  have back : query.compare (task b) (task a) = .eq := Std.OrientedCmp.eq_symm tie
  apply orderly
  rw [back]
  rfl

end

theorem zipIdx_increasing {α : Type} (items : List α) :
    items.zipIdx.Pairwise (·.2 < ·.2) := by
  rw [← List.pairwise_map (R := (· < ·)) (f := Prod.snd)]
  simpa using List.pairwise_lt_range' (s := 0) (n := items.length)

/-- A query without groupers gives one group: the accepted tasks, each at the place it had, in the
order of the sorters, with ties in the order of their places. -/
theorem Query.apply_sorts_stably (query : Query) (ungrouped : query.groupers = [])
    (total : ∀ sorter ∈ query.sorters, Std.TransCmp sorter.order) (tasks : List Task) :
    ∃ placed : List (Task × Nat),
      query.apply id tasks = [⟨[], placed.map Prod.fst⟩] ∧
      placed.Perm (tasks.zipIdx.filter fun item => query.filters.all (·.accepts item.1)) ∧
      (placed.Pairwise fun a b => Sorter.InOrder query.sorters a.1 b.1) ∧
      placed.Pairwise fun a b =>
        (∀ sorter ∈ query.sorters, sorter.order a.1 b.1 = .eq) → a.2 < b.2 := by
  refine ⟨query.select Prod.fst tasks.zipIdx, ?_, ?_, ?_, ?_⟩
  · rw [query.apply_ungrouped ungrouped, ← query.select_map, List.zipIdx_map_fst]
  · exact query.select_perm Prod.fst tasks.zipIdx
  · exact query.select_inOrder total Prod.fst tasks.zipIdx
  · exact query.select_stable total Prod.fst Prod.snd tasks.zipIdx (zipIdx_increasing tasks)

def busiestFirst : Query where
  sorters :=
    [⟨"count", compareOn (·.count), true⟩, ⟨"length", compareOn (·.description.length), false⟩]

theorem busiestFirst_sorts_stably :
    busiestFirst.groupers = [] ∧
      (∀ sorter ∈ busiestFirst.sorters, Std.TransCmp sorter.order) ∧
      ∃ placed : List (Task × Nat),
        busiestFirst.apply id [⟨"write", [], 1⟩, ⟨"read", [], 2⟩, ⟨"think", [], 1⟩] =
          [⟨[], placed.map Prod.fst⟩] ∧
        placed.length = 3 ∧
        placed.Pairwise fun a b =>
          (∀ sorter ∈ busiestFirst.sorters, sorter.order a.1 b.1 = .eq) → a.2 < b.2 := by
  have total : ∀ sorter ∈ busiestFirst.sorters, Std.TransCmp sorter.order := by
    intro sorter member
    simp only [busiestFirst, List.mem_cons, List.not_mem_nil, or_false] at member
    rcases member with rfl | rfl <;> exact inferInstanceAs (Std.TransCmp (compareOn _))
  obtain ⟨placed, groups, perm, _, stable⟩ := busiestFirst.apply_sorts_stably rfl total
    [⟨"write", [], 1⟩, ⟨"read", [], 2⟩, ⟨"think", [], 1⟩]
  exact ⟨rfl, total, placed, groups, perm.length_eq, stable⟩

end TaskQuery
