import Mathlib.Data.List.Basic
import Mathlib.Data.List.Forall2
import TaskQuery.Proofs.Query.Splitting

set_option autoImplicit false

namespace TaskQuery

/-- A query that cannot tell related tasks apart. -/
structure Query.Blind (related : Task → Task → Prop) (query : Query) : Prop where
  accepts : ∀ filter ∈ query.filters, ∀ task other, related task other →
    filter.accepts task = filter.accepts other
  order : ∀ sorter ∈ query.sorters, ∀ a b a' b', related a a' → related b b' →
    sorter.order a b = sorter.order a' b'
  headings : ∀ grouper ∈ query.groupers, ∀ task other, related task other →
    grouper.headings task = grouper.headings other

def Group.map {α β : Type} (move : α → β) (group : Group α) : Group β :=
  ⟨group.headings, group.members.map move⟩

/-- The groups of a list of tasks, with the place of a task in the list for the task. -/
def Query.places (query : Query) (tasks : List Task) : List (Group (Fin tasks.length)) :=
  query.apply tasks.get (List.finRange tasks.length)

namespace Query

theorem blind_eq (query : Query) : query.Blind Eq where
  accepts _ _ _ _ same := by rw [same]
  order _ _ _ _ _ _ same same' := by rw [same, same']
  headings _ _ _ _ same := by rw [same]

namespace Blind

section

variable {related : Task → Task → Prop} {query : Query} (blind : query.Blind related)
  {a b a' b' : Task} (left : related a a') (right : related b b')

include blind left

theorem accepts_eq : query.accepts a = query.accepts a' := by
  rw [Bool.eq_iff_iff, Query.accepts, Query.accepts, List.all_eq_true, List.all_eq_true]
  refine forall₂_congr fun filter member => ?_
  rw [blind.accepts filter member a a' left]

include right in
theorem compare_eq : query.compare a b = query.compare a' b' := by
  unfold Query.compare
  apply List.foldr_ext
  intro sorter member rest
  rw [Sorter.compare, Sorter.compare, blind.order sorter member a b a' b' left right]

theorem paths_eq : query.paths a = query.paths a' := by
  unfold Query.paths
  apply List.foldr_ext
  intro grouper member paths
  rw [Grouper.keys, Grouper.keys, blind.headings grouper member a a' left]

end

section

variable {related : Task → Task → Prop} {query : Query} (blind : query.Blind related)
  {α β : Type} {task : α → Task} {task' : β → Task} {move : α → β} {items : List α}
  (alike : ∀ item ∈ items, related (task item) (task' (move item)))

include blind alike

theorem select_map : query.select task' (items.map move) = (query.select task items).map move := by
  have accepted : items.filter ((query.accepts <| task' ·) ∘ move) =
      items.filter (query.accepts <| task ·) := by
    apply List.filter_congr
    intro item member
    exact (blind.accepts_eq (alike item member)).symm
  rw [Query.select, Query.select, List.filter_map, accepted, List.map_mergeSort]
  intro a inside b inside'
  rw [blind.compare_eq (alike a (List.mem_of_mem_filter inside))
    (alike b (List.mem_of_mem_filter inside'))]

theorem membersAt_map (path : List Text) : query.membersAt task' path (items.map move) =
    (query.membersAt task path items).map move := by
  rw [Query.membersAt, Query.membersAt, List.flatMap_map, List.map_flatMap]
  apply List.flatMap_congr
  intro item member
  rw [List.map_replicate, blind.paths_eq (alike item member)]

theorem split_map : query.split task' (items.map move) =
    (query.split task items).map (Group.map move) := by
  apply query.split_eq
  · exact List.pairwise_map.mpr (query.split_increasing task items)
  · intro group
    rw [membersAt_map blind alike, List.mem_map]
    constructor
    · rintro ⟨whole, member, rfl⟩
      obtain ⟨nonempty, same⟩ := (query.mem_split task items whole).mp member
      exact ⟨by simpa [Group.map] using nonempty, congrArg (List.map move) same⟩
    · rintro ⟨nonempty, same⟩
      have filled : query.membersAt task group.headings items ≠ [] := by
        intro empty
        exact nonempty (by rw [same, empty]; rfl)
      exact ⟨_, query.group_mem_split task items group.headings filled, by rw [Group.map, ← same]⟩

theorem apply_map : query.apply task' (items.map move) =
    (query.apply task items).map (Group.map move) := by
  have selected : ∀ item ∈ query.select task items, related (task item) (task' (move item)) := by
    intro item member
    exact alike item (List.mem_of_mem_filter (List.mem_mergeSort.mp member))
  rw [Query.apply, Query.apply, select_map blind alike, split_map blind selected]
  split <;> rfl

end

theorem places_eq {related : Task → Task → Prop} {query : Query} (blind : query.Blind related)
    {tasks others : List Task} (alike : List.Forall₂ related tasks others) :
    query.places others = (query.places tasks).map (Group.map (Fin.cast alike.length_eq)) := by
  have moved : List.finRange others.length =
      (List.finRange tasks.length).map (Fin.cast alike.length_eq) := by
    apply List.ext_getElem <;> simp [alike.length_eq]
  rw [Query.places, Query.places, moved]
  apply apply_map blind
  intro place _
  exact List.Forall₂.get alike place.2 (alike.length_eq ▸ place.2)

end Blind

theorem apply_eq_places (query : Query) (tasks : List Task) :
    query.apply id tasks = (query.places tasks).map (Group.map tasks.get) := by
  have groups : query.apply id ((List.finRange tasks.length).map tasks.get) =
      (query.places tasks).map (Group.map tasks.get) :=
    query.blind_eq.apply_map fun _ _ => rfl
  rwa [List.map_get_finRange] at groups

end Query

end TaskQuery
