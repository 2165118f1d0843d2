import TaskQuery.Proofs.DateField.Order
import TaskQuery.Proofs.Query.Sorting

set_option autoImplicit false

namespace TaskQuery

/-- An order that tasks can be sorted by: a total preorder, with the tasks that it takes for equal
and those that it puts in front of others. -/
structure SortKey (tied ahead : Task → Task → Prop) (order : Task → Task → Ordering) : Prop
    extends Std.ReflCmp order, Std.TransCmp order where
  tie : ∀ a b, order a b = .eq ↔ tied a b
  front : ∀ a b, order a b = .lt ↔ ahead a b

section

variable {tied ahead : Task → Task → Prop}

theorem SortKey.unsorted : SortKey (fun _ _ => True) (fun _ _ => False) (fun _ _ => .eq) where
  compare_self := rfl
  eq_swap := rfl
  isLE_trans := fun _ _ => rfl
  tie := by simp
  front := by simp

theorem SortKey.lex {order rest : Task → Task → Ordering} {tied' ahead' : Task → Task → Prop}
    (first : SortKey tied ahead order) (later : SortKey tied' ahead' rest) :
    SortKey (fun a b => tied a b ∧ tied' a b) (fun a b => ahead a b ∨ tied a b ∧ ahead' a b)
      (compareLex order rest) := by
  have := first.toTransCmp
  have := later.toTransCmp
  have total : Std.TransCmp (compareLex order rest) := inferInstance
  refine { total with compare_self := Std.ReflCmp.compare_self, tie := ?_, front := ?_ }
  · intro a b
    rw [compareLex_eq_eq, first.tie, later.tie]
  · intro a b
    rw [compareLex, Ordering.then_eq_lt, first.front, first.tie, later.front]

theorem Sorter.sortKey (sorter : Sorter) (key : SortKey tied ahead sorter.order) :
    SortKey tied (fun a b => if sorter.reverse then ahead b a else ahead a b) sorter.compare := by
  have order : Std.TransCmp sorter.order := key.toTransCmp
  have total := sorter.transCmp_compare order
  refine { total with compare_self := Std.ReflCmp.compare_self, tie := ?_, front := ?_ }
  · intro a b
    rw [sorter.compare_eq_eq, key.tie]
  · intro a b
    cases reverse : sorter.reverse with
    | true => simp [Sorter.compare, reverse, ← key.front, Std.OrientedCmp.gt_iff_lt]
    | false => simp [Sorter.compare, reverse, ← key.front]

end

theorem compareLatest_sortKey (dates : Task → List Date) :
    SortKey (fun a b => Date.latest? (dates a) = Date.latest? (dates b))
      (fun a b => Sooner (Date.latest? (dates a)) (Date.latest? (dates b)))
      (compareLatest dates) where
  compare_self := Std.ReflCmp.compare_self
  eq_swap := Std.OrientedCmp.eq_swap
  isLE_trans := Std.TransCmp.isLE_trans
  tie _ _ := compareDates_eq_eq _ _
  front _ _ := compareDates_eq_lt _ _

/-- What a sorter by dates goes by: the latest of the dates that an attribute holds, with the
oldest first or, turned around, the newest. -/
structure DateKey where
  property : Text
  dates : Task → List Date
  reverse : Bool

namespace DateKey

def sorter (key : DateKey) : Sorter :=
  ⟨key.property, compareLatest key.dates, key.reverse⟩

def latest? (key : DateKey) (task : Task) : Option Date :=
  Date.latest? (key.dates task)

def Tied (key : DateKey) (a b : Task) : Prop :=
  key.latest? a = key.latest? b

def Ahead (key : DateKey) (a b : Task) : Prop :=
  if key.reverse then Sooner (key.latest? b) (key.latest? a)
  else Sooner (key.latest? a) (key.latest? b)

def FirstAhead : List DateKey → Task → Task → Prop
  | [], _, _ => False
  | key :: keys, a, b => key.Ahead a b ∨ key.Tied a b ∧ FirstAhead keys a b

theorem sortKey (key : DateKey) : SortKey key.Tied key.Ahead key.sorter.compare :=
  key.sorter.sortKey (compareLatest_sortKey key.dates)

theorem chain_sortKey (keys : List DateKey) :
    SortKey (fun a b => ∀ key ∈ keys, key.Tied a b) (FirstAhead keys)
      (Sorter.chain (keys.map sorter)) := by
  induction keys with
  | nil =>
    simp only [List.not_mem_nil, IsEmpty.forall_iff, implies_true]
    exact SortKey.unsorted
  | cons key keys ih =>
    simp only [List.forall_mem_cons]
    exact key.sortKey.lex ih

end DateKey

/-- The latest date is the greatest one. Tasks compared by it are in a total preorder with those
without dates behind all others, and stay in one when sorters turn it around and ask one key after
the other. -/
theorem DateKey.sorts_soundly :
    (∀ dates : List Date, (Date.latest? dates = none ↔ dates = []) ∧
      ∀ latest, Date.latest? dates = some latest ↔
        latest ∈ dates ∧ ∀ date ∈ dates, ¬ latest < date) ∧
    (∀ field : DateField, field.field.compare? = some (compareLatest field.dates)) ∧
    (∀ dates : Task → List Date,
      SortKey (fun a b => Date.latest? (dates a) = Date.latest? (dates b))
        (fun a b => Sooner (Date.latest? (dates a)) (Date.latest? (dates b)))
        (compareLatest dates) ∧
      ∀ a b, dates a ≠ [] → dates b = [] → compareLatest dates a b = .lt) ∧
    (∀ key : DateKey, SortKey key.Tied key.Ahead key.sorter.compare) ∧
    ∀ (query : Query) (keys : List DateKey), query.sorters = keys.map sorter →
      SortKey (fun a b => ∀ key ∈ keys, key.Tied a b) (FirstAhead keys) query.compare := by
  refine ⟨?_, ?_, ?_, sortKey, ?_⟩
  · intro dates
    exact ⟨Date.latest?_eq_none_iff dates, Date.latest?_eq_some_iff dates⟩
  · intro field
    rfl
  · intro dates
    refine ⟨compareLatest_sortKey dates, ?_⟩
    intro a b dated undated
    exact ((compareLatest_sortKey dates).front a b).mpr (sooner_of_undated dated undated)
  · intro query keys sorters
    rw [query.compare_eq_chain, sorters]
    exact chain_sortKey keys

def newcomers : List DateKey :=
  [⟨"again", (·.dates.tail), true⟩, ⟨"top3", Task.dates, false⟩]

def newcomersFirst : Query where
  sorters := newcomers.map DateKey.sorter

theorem newcomersFirst_sorts_soundly :
    ∃ once never back : Task,
      once.dates = [⟨2024, 5, 2, by decide⟩] ∧ never.dates = [] ∧
      back.dates = [⟨2024, 3, 1, by decide⟩, ⟨2024, 6, 1, by decide⟩] ∧
      once.dates ≠ [] ∧ compareLatest Task.dates once never = .lt ∧
      newcomersFirst.sorters = newcomers.map DateKey.sorter ∧
      Std.TransCmp newcomersFirst.compare ∧
      newcomersFirst.compare once never = .lt ∧ newcomersFirst.compare never back = .lt := by
  obtain ⟨_, _, latest, _, composed⟩ := DateKey.sorts_soundly
  have dated : (Task.of "tea" [⟨2024, 5, 2, by decide⟩]).dates ≠ [] := by decide
  have key := composed newcomersFirst newcomers rfl
  refine ⟨Task.of "tea" [⟨2024, 5, 2, by decide⟩], Task.of "oats" [],
    Task.of "rye" [⟨2024, 3, 1, by decide⟩, ⟨2024, 6, 1, by decide⟩], rfl, rfl, rfl, dated,
    (latest Task.dates).2 _ _ dated rfl, rfl, key.toTransCmp, (key.front _ _).mpr ?_,
    (key.front _ _).mpr ?_⟩
  · right
    refine ⟨rfl, .inl ?_⟩
    exact sooner_of_undated dated rfl
  · left
    exact sooner_of_undated (by decide) rfl

end TaskQuery
