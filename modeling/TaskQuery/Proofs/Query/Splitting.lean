import Mathlib.Data.List.Basic
import Mathlib.Data.List.Nodup
import Mathlib.Data.List.Perm.Basic
import Std.Data.TreeMap.Lemmas
import TaskQuery.Proofs.Text.Natural
import TaskQuery.Query.Selection

set_option autoImplicit false

namespace TaskQuery

instance : Std.TransCmp compareHeadings :=
  inferInstanceAs (Std.TransCmp (List.compareLex Text.compareNatural))

instance : Std.TransCmp compareExact :=
  inferInstanceAs (Std.TransCmp (List.compareLex Text.compare))

instance : Std.LawfulEqCmp compareExact :=
  inferInstanceAs (Std.LawfulEqCmp (List.compareLex Text.compare))

/-- Headings that are equal but for zeros before their numbers are told apart by code points. -/
def comparePaths (a b : List Text) : Ordering :=
  (compareHeadings a b).then (compareExact a b)

instance : Std.TransCmp comparePaths :=
  inferInstanceAs (Std.TransCmp (compareLex compareHeadings compareExact))

theorem comparePaths_irrefl (path : List Text) : comparePaths path path ≠ .lt := by
  have tie : comparePaths path path = .eq := Std.ReflCmp.compare_self
  simp [tie]

theorem isLE_or_isLE {α : Type} (cmp : α → α → Ordering) [Std.OrientedCmp cmp] (a b : α) :
    (cmp a b).isLE || (cmp b a).isLE := by
  have swapped : cmp b a = (cmp a b).swap := Std.OrientedCmp.eq_swap
  rw [swapped]
  cases cmp a b <;> rfl

section

variable {α : Type} (le : α → α → Bool) (trans : ∀ a b c, le a b → le b c → le a c)
  (total : ∀ a b, le a b || le b a)

include trans total in
theorem mergeSort_stable (before : α → α → Prop) (items : List α) (given : items.Pairwise before) :
    (items.mergeSort le).Pairwise fun a b => le b a → before a b := by
  induction items with
  | nil => simp
  | cons item rest ih =>
    obtain ⟨front, back, whole, part, greater⟩ := List.mergeSort_cons trans total item rest
    obtain ⟨first, later⟩ := List.pairwise_cons.mp given
    have sorted := ih later
    rw [part, List.pairwise_append] at sorted
    obtain ⟨inFront, inBack, across⟩ := sorted
    have members : ∀ other ∈ back, other ∈ rest := by
      intro other member
      have : other ∈ rest.mergeSort le := part ▸ List.mem_append_right front member
      exact List.mem_mergeSort.mp this
    rw [whole, List.pairwise_append, List.pairwise_cons]
    refine ⟨inFront, ⟨fun other member _ => first other (members other member), inBack⟩, ?_⟩
    -- Only `item` is new behind, and nothing in front ties with it.
    intro a ahead b behind
    rcases List.mem_cons.mp behind with rfl | behind
    · intro tie
      have apart := greater a ahead
      simp [tie] at apart
    · exact across a ahead b behind

end

section

variable {α : Type}

theorem Group.sorted_increasing (groups : List (Group α))
    (given : groups.Pairwise fun a b => compareExact a.headings b.headings = .lt) :
    (groups.mergeSort fun a b => (compareHeadings a.headings b.headings).isLE).Pairwise fun a b =>
      comparePaths a.headings b.headings = .lt := by
  have trans (a b c : Group α) : (compareHeadings a.headings b.headings).isLE →
      (compareHeadings b.headings c.headings).isLE →
        (compareHeadings a.headings c.headings).isLE :=
    Std.TransCmp.isLE_trans
  have total (a b : Group α) := isLE_or_isLE compareHeadings a.headings b.headings
  have sorted := List.pairwise_mergeSort trans total groups
  have stable := mergeSort_stable _ trans total _ groups given
  refine (sorted.and stable).imp ?_
  intro a b placed
  cases order : compareHeadings a.headings b.headings with
  | lt => simp [comparePaths, order]
  | gt => simp [order] at placed
  | eq =>
    -- Headings that tie stay in the order of code points in which the map gives them.
    have back : compareHeadings b.headings a.headings = .eq := Std.OrientedCmp.eq_symm order
    simpa [comparePaths, order] using placed.2 (by rw [back]; rfl)

theorem Group.headings_nodup {groups : List (Group α)}
    (increasing : groups.Pairwise fun a b => comparePaths a.headings b.headings = .lt) :
    (groups.map Group.headings).Nodup := by
  refine List.pairwise_map.mpr (increasing.imp ?_)
  intro a b before same
  exact comparePaths_irrefl _ (same ▸ before)

end

section

variable {α : Type} {groups : GroupMap α} {members : List Text → List α}

/-- Each path stands for the items that were filed under it, and for none if there are none. -/
def GroupMap.Holds (groups : GroupMap α) (members : List Text → List α) : Prop :=
  ∀ path, groups[path]? = if (members path).isEmpty then none else some (members path)

theorem GroupMap.Holds.push (holds : groups.Holds members) (path : List Text) (item : α) :
    (groups.push path item).Holds fun other =>
      if path = other then members other ++ [item] else members other := by
  intro other
  simp only [GroupMap.push, Std.TreeMap.getElem?_alter, Std.LawfulEqCmp.compare_eq_iff_eq,
    holds path, holds other]
  by_cases same : path = other
  · subst same
    cases members path <;> simp
  · simp [same]

theorem GroupMap.Holds.pushAll (holds : groups.Holds members) (paths : List (List Text))
    (item : α) : (paths.foldl (·.push · item) groups).Holds fun other =>
      members other ++ List.replicate (paths.count other) item := by
  induction paths generalizing groups members with
  | nil => simpa using holds
  | cons path paths ih =>
    have next := ih (holds.push path item)
    -- Pushing under the first path adds the copy by which its count is greater.
    have same : (fun other => (if path = other then members other ++ [item] else members other) ++
        List.replicate (paths.count other) item) =
        fun other => members other ++ List.replicate ((path :: paths).count other) item := by
      funext other
      by_cases same : path = other <;> simp [same, List.replicate_succ]
    rwa [same] at next

variable (query : Query) (task : α → Task)

def Query.membersAt (path : List Text) (items : List α) : List α :=
  items.flatMap fun item => List.replicate ((query.paths (task item)).count path) item

theorem GroupMap.Holds.file (holds : groups.Holds members) (item : α) :
    (query.file task groups item).Holds fun path =>
      members path ++ List.replicate ((query.paths (task item)).count path) item :=
  holds.pushAll (query.paths (task item)) item

theorem GroupMap.Holds.fileAll (holds : groups.Holds members) (items : List α) :
    (items.foldl (query.file task) groups).Holds fun path =>
      members path ++ query.membersAt task path items := by
  induction items generalizing groups members with
  | nil => simpa [Query.membersAt] using holds
  | cons item items ih =>
    have next := ih (holds.file query task item)
    simpa [Query.membersAt, List.append_assoc] using next

variable (items : List α)

theorem GroupMap.holds_filed :
    (items.foldl (query.file task) ∅ : GroupMap α).Holds fun path =>
      query.membersAt task path items := by
  have empty : (∅ : GroupMap α).Holds fun _ => [] := by
    intro path
    exact Std.TreeMap.getElem?_emptyc
  simpa using empty.fileAll query task items

theorem Query.mem_split (group : Group α) : group ∈ query.split task items ↔
    group.members ≠ [] ∧ group.members = query.membersAt task group.headings items := by
  obtain ⟨path, members⟩ := group
  have filed := GroupMap.holds_filed query task items path
  simp only [Query.split, List.mem_mergeSort, List.mem_map, Prod.exists, Group.mk.injEq,
    Std.TreeMap.mem_toList_iff_getElem?_eq_some]
  constructor
  · rintro ⟨_, _, found, rfl, rfl⟩
    rw [filed] at found
    split at found
    next => cases found
    next nonempty =>
      cases found
      exact ⟨by simpa using nonempty, rfl⟩
  · rintro ⟨nonempty, same⟩
    refine ⟨path, members, ?_, rfl, rfl⟩
    rw [filed]
    simp [← same, nonempty]

theorem Query.membersAt_ne_nil (path : List Text) :
    query.membersAt task path items ≠ [] ↔ ∃ item ∈ items, path ∈ query.paths (task item) := by
  simp [Query.membersAt, List.count_eq_zero]

theorem Query.group_mem_split (path : List Text) (nonempty : query.membersAt task path items ≠ []) :
    ⟨path, query.membersAt task path items⟩ ∈ query.split task items :=
  (query.mem_split task items _).mpr ⟨nonempty, rfl⟩

theorem Query.mem_split_headings (path : List Text) :
    path ∈ (query.split task items).map Group.headings ↔
      ∃ item ∈ items, path ∈ query.paths (task item) := by
  rw [List.mem_map, ← query.membersAt_ne_nil]
  constructor
  · rintro ⟨group, member, rfl⟩
    obtain ⟨nonempty, same⟩ := (query.mem_split task items group).mp member
    rwa [← same]
  · intro nonempty
    exact ⟨_, query.group_mem_split task items path nonempty, rfl⟩

theorem Query.split_increasing : (query.split task items).Pairwise fun a b =>
    comparePaths a.headings b.headings = .lt :=
  Group.sorted_increasing _ (List.pairwise_map.mpr Std.TreeMap.ordered_keys_toList)

theorem Query.split_headings_nodup : ((query.split task items).map Group.headings).Nodup :=
  Group.headings_nodup (query.split_increasing task items)

/-- Groups in increasing order are those of a query if they hold what it puts under each path. -/
theorem Query.split_eq {groups : List (Group α)}
    (increasing : groups.Pairwise fun a b => comparePaths a.headings b.headings = .lt)
    (same : ∀ group, group ∈ groups ↔
      group.members ≠ [] ∧ group.members = query.membersAt task group.headings items) :
    query.split task items = groups := by
  have increasing' := query.split_increasing task items
  have nodup := List.Nodup.of_map Group.headings (Group.headings_nodup increasing)
  have nodup' := List.Nodup.of_map Group.headings (Group.headings_nodup increasing')
  refine List.Perm.eq_of_pairwise ?_ increasing' increasing
    ((List.perm_ext_iff_of_nodup nodup' nodup).mpr ?_)
  · intro a b _ _ before after
    exact absurd after (Std.OrientedCmp.not_lt_of_lt before)
  · intro group
    rw [query.mem_split, same]

end

end TaskQuery
