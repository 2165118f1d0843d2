import TaskQuery.Proofs.DateField.Order
import TaskQuery.Proofs.DateField.Relation
import TaskQuery.Proofs.Query.Directive
import TaskQuery.Proofs.Query.Rearrangement

set_option autoImplicit false

namespace TaskQuery

section

variable {α : Type} (items : List α)

theorem filter_append_filter_not (p : α → Bool)
    (front : items.Pairwise fun a b => p b = true → p a = true) :
    items.filter p ++ items.filter (!p ·) = items := by
  induction items with
  | nil => rfl
  | cons item items ih =>
    rw [List.pairwise_cons] at front
    by_cases inside : p item = true
    · simpa [inside] using ih front.2
    · have others : ∀ other ∈ items, ¬ p other = true := fun other member found =>
        inside (front.1 other member found)
      have none : items.filter p = [] := List.filter_eq_nil_iff.mpr others
      have all : items.filter (!p ·) = items := List.filter_eq_self.mpr (by simpa using others)
      simp [inside, none, all]

theorem flatMap_filter_of_ordered (classes : List (α → Bool))
    (shared : ∀ item ∈ items, classes.countP (· item) = 1)
    (ordered : items.Pairwise fun a b =>
      classes.Pairwise fun first later => later a = true → first b = false) :
    classes.flatMap (items.filter ·) = items := by
  induction classes generalizing items with
  | nil =>
    cases items with
    | nil => rfl
    | cons item items => simpa using shared item (by simp)
  | cons first rest ih =>
    have front : items.Pairwise fun a b => first b = true → first a = true := by
      refine ordered.imp_of_mem ?_
      intro a b member _ order inFirst
      by_contra outside
      have once := shared a member
      rw [List.countP_cons, if_neg outside] at once
      obtain ⟨later, inRest, inLater⟩ := List.countP_pos_iff.mp (once ▸ Nat.one_pos)
      rw [(List.pairwise_cons.mp order).1 later inRest inLater] at inFirst
      cases inFirst
    have apart : ∀ later ∈ rest, items.filter later = (items.filter (!first ·)).filter later := by
      intro later inRest
      rw [List.filter_filter]
      refine List.filter_congr ?_
      intro item member
      have once := shared item member
      by_cases inFirst : first item = true
      · rw [List.countP_cons, if_pos inFirst] at once
        have none : rest.countP (· item) = 0 := by omega
        have outside := List.countP_eq_zero.mp none later inRest
        simp [inFirst, outside]
      · simp [inFirst]
    have others : rest.flatMap (items.filter ·) = items.filter (!first ·) := by
      rw [List.flatMap_congr apart]
      apply ih
      · intro item member
        obtain ⟨inside, outside⟩ := List.mem_filter.mp member
        have once := shared item inside
        rwa [List.countP_cons, if_neg (by simpa using outside)] at once
      · exact (ordered.filter _).imp fun order => (List.pairwise_cons.mp order).2
    rw [List.flatMap_cons, others]
    exact filter_append_filter_not items first front

end

def Condition.sides (range : DateRange) : List Condition :=
  [latest .before range, latest .on range, latest .after range, undated]

theorem DateField.sides_ordered (field : DateField) (range : DateRange) (a b : Task)
    (order : compareLatest field.dates a b ≠ .gt) :
    (Condition.sides range).Pairwise fun first later =>
      field.accepts later a = true → field.accepts first b = false := by
  cases foundA : Date.latest? (field.dates a) with
  | none =>
    cases foundB : Date.latest? (field.dates b) with
    | none => simp [Condition.sides, accepts, Condition.accepts, foundB]
    | some y => simp [compareLatest, compareDates, foundA, foundB] at order
  | some x =>
    have dated := Date.ne_nil_of_latest? foundA
    cases foundB : Date.latest? (field.dates b) with
    | none => simp [Condition.sides, accepts, Condition.accepts, foundB]
    | some y =>
      have le : x ≤ y := by
        rw [compareLatest, foundA, foundB, compareDates] at order
        exact not_lt.mp fun less => order (compare_gt_iff_gt.mpr less)
      have begun (ge : range.first ≤ x) : range.first ≤ y := ge.trans le
      have past (gt : range.last < x) : range.last < y := gt.trans_le le
      have within (gt : range.last < x) : range.first ≤ y := range.ordered.trans (past gt).le
      have apart : ((range.first ≤ x → x ≤ range.last → range.first ≤ y) ∧
          (range.last < x → range.first ≤ y)) ∧ (range.last < x → range.first ≤ y →
            range.last < y) :=
        ⟨⟨fun ge _ => begun ge, within⟩, fun gt _ => past gt⟩
      simpa [Condition.sides, accepts, Condition.accepts, foundA, foundB, dated,
        DateRelation.holds, DateRange.mem_iff] using apart

/-- A line that asks to sort by the name of a date field, written in any case. -/
structure SortsByDate (fields : List Field) (field : DateField) (reverse : Bool) (line : Text) :
    Prop where
  spelled : ∃ rest : Text, line.lower = "sort by " ++ rest ∧
    rest.words = field.name.lower :: if reverse then [Text.ofString "reverse"] else []
  known : ∃ found : DateField, found.dates = field.dates ∧
    Field.find? fields field.name.lower = some found.field

section

variable {fields : List Field} {field : DateField} {reverse : Bool} {line : Text}

theorem SortsByDate.read (sorts : SortsByDate fields field reverse line) :
    Directive.read fields line =
      .ok (.sort ⟨field.name.lower, compareLatest field.dates, reverse⟩) := by
  obtain ⟨⟨rest, lower, words⟩, found, same, known⟩ := sorts
  have sortBy (backwards : Bool) : Directive.sortBy fields field.name.lower backwards =
      .ok (.sort ⟨field.name.lower, compareLatest field.dates, backwards⟩) := by
    simp [Directive.sortBy, known, DateField.field, same]
  have opening : (Text.ofString "sort by ", Directive.readSort fields) ∈
      Directive.openings fields := by
    simp [Directive.openings]
  rw [Directive.read_opening opening lower]
  cases reverse <;> simp [Directive.readSort, words, sortBy, Except.mapError]

theorem Query.sorters_of_first {source : Text} {query : Query} {others : List Text}
    (read : Query.read fields source = .ok query)
    (first : sortLines fields source = line :: others) (sorter : Sorter)
    (sorts : Directive.read fields line = .ok (.sort sorter)) :
    ∃ later, query.sorters = sorter :: later := by
  have inside : line ∈ sortLines fields source := by simp [first]
  have spoken := spoken_of_said source line (List.mem_of_mem_filter inside)
  have alone : (Query.alone fields line).sorters = [sorter] := by
    rw [Query.alone, Query.read_spoken fields line spoken, sorts]
    rfl
  have sorters := (Query.parts_of_lines fields source query read).2.1
  rw [first, List.flatMap_cons, Function.comp_apply, alone] at sorters
  exact ⟨_, sorters⟩

end

theorem Query.select_ordered {α : Type} (query : Query) (sorter : Sorter) (later : List Sorter)
    (sorters : query.sorters = sorter :: later)
    (total : ∀ sorter ∈ query.sorters, Std.TransCmp sorter.order) (task : α → Task)
    (items : List α) :
    (query.select task items).Pairwise fun a b =>
      sorter.order (task a) (task b) ≠ if sorter.reverse then .lt else .gt := by
  refine (query.select_inOrder total task items).imp ?_
  intro a b inOrder
  -- The first sorter decides before any other is asked.
  have decided := inOrder [] sorter later sorters (by simp)
  cases order : sorter.order (task a) (task b) <;> cases backwards : sorter.reverse <;>
    simp_all

theorem DateField.sides_ordered_select {α : Type} (field : DateField) (query : Query)
    (property : Text) (reverse : Bool) (later : List Sorter)
    (sorters : query.sorters = ⟨property, compareLatest field.dates, reverse⟩ :: later)
    (total : ∀ sorter ∈ query.sorters, Std.TransCmp sorter.order) (range : DateRange)
    (task : α → Task) (items : List α) :
    (query.select task items).Pairwise fun a b =>
      (if reverse then (Condition.sides range).reverse else Condition.sides range).Pairwise
        fun first later =>
          field.accepts later (task a) = true → field.accepts first (task b) = false := by
  refine (query.select_ordered _ later sorters total task items).imp ?_
  intro a b order
  cases reverse with
  | false => exact field.sides_ordered range (task a) (task b) order
  | true =>
    have swapped : compareLatest field.dates (task b) (task a) ≠ .gt := by
      intro greater
      exact order (Std.OrientedCmp.lt_of_gt greater)
    rw [if_pos rfl, List.pairwise_reverse]
    refine (field.sides_ordered range (task b) (task a) swapped).imp ?_
    intro first later apart inFirst
    by_contra inLater
    rw [apart (by simpa using inLater)] at inFirst
    cases inFirst

theorem DateField.sides_flatMap {α : Type} (field : DateField) (range : DateRange)
    (classes : List Condition) (all : classes.Perm (Condition.sides range)) (task : α → Task)
    (sorted : List α)
    (ordered : sorted.Pairwise fun a b => classes.Pairwise fun first later =>
      field.accepts later (task a) = true → field.accepts first (task b) = false) :
    (classes.flatMap fun condition => sorted.filter (field.accepts condition <| task ·)) =
      sorted := by
  have shared : ∀ item ∈ sorted,
      (classes.map fun condition item => field.accepts condition (task item)).countP (· item) =
        1 := by
    intro item _
    rw [List.countP_map, all.countP_eq]
    exact Condition.partition range (field.dates (task item)) (field.count (task item))
  have blocks := flatMap_filter_of_ordered sorted _ shared
    (ordered.imp fun apart => List.pairwise_map.mpr apart)
  rwa [List.flatMap_map] at blocks

/-- Tasks sorted by a date field come in four blocks around any range: those before it, in it and
behind it, and those without a date; a reversed sort line turns the blocks around. -/
theorem Query.apply_sorts_into_blocks (fields : List Field)
    (lawful : ∀ other ∈ fields, ∀ order, other.compare? = some order → Std.TransCmp order)
    (field : DateField) (text : Text) (single : '\n' ∉ text)
    (means : (∃ range, DateRange.read? field.today text = some range) ∨
      ∃ date, Date.read? field.today text = some date)
    (source line : Text) (others : List Text) (reverse : Bool) (query : Query)
    (read : Query.read fields source = .ok query)
    (first : sortLines fields source = line :: others)
    (sorts : SortsByDate fields field reverse line) (ungrouped : groupLines fields source = []) :
    ∃ before on after undated : Filter,
      field.compile (field.dateLine "before" text) = .ok before ∧
      field.compile (field.dateLine "on" text) = .ok on ∧
      field.compile (field.dateLine "after" text) = .ok after ∧
      field.compile ("no " ++ field.name ++ " date") = .ok undated ∧
      ∀ {α : Type} (task : α → Task) (items : List α), ∃ sorted : List α,
        query.apply task items = [⟨[], sorted⟩] ∧
        sorted.Perm (items.filter (query.accepts <| task ·)) ∧
        sorted = (if reverse then [undated, after, on, before]
          else [before, on, after, undated]).flatMap fun filter =>
            sorted.filter (filter.accepts <| task ·) := by
  obtain ⟨range, resolves⟩ := DateRange.exists_resolve? field.today text means
  have meant : field.Means text range := ⟨single, resolves⟩
  have total := Query.lawful_of_read read lawful
  obtain ⟨later, sorters⟩ := Query.sorters_of_first read first _ sorts.read
  have groupers : query.groupers = [] := by
    rw [(Query.parts_of_lines fields source query read).2.2, ungrouped]
    rfl
  refine ⟨_, _, _, _, meant.compile_keyword "before" .before (by simp [dateKeywords]),
    meant.compile_keyword "on" .on (by simp [dateKeywords]),
    meant.compile_keyword "after" .after (by simp [dateKeywords]), field.compile_phrases.2, ?_⟩
  intro α task items
  refine ⟨query.select task items, query.apply_ungrouped groupers task items,
    query.select_perm task items, ?_⟩
  have all : (if reverse then (Condition.sides range).reverse else Condition.sides range).Perm
      (Condition.sides range) := by
    cases reverse <;> simp
  have blocks := field.sides_flatMap range _ all task (query.select task items)
    (field.sides_ordered_select query _ reverse later sorters total range task items)
  cases reverse <;> simpa [Condition.sides] using blocks.symm

def newestFirst : Text := "# plan\nsort by  TOP3 Reverse\nsort by top3"

theorem newestFirst_sorts_into_blocks :
    ∃ query : Query, '\n' ∉ ("this week" : Text) ∧
      DateRange.read? marchField.today "this week" =
        some ⟨⟨2024, 3, 18, by decide⟩, ⟨2024, 3, 24, by decide⟩, by decide⟩ ∧
      (∀ other ∈ [yearEndField.field], ∀ order, other.compare? = some order →
        Std.TransCmp order) ∧
      Query.read [yearEndField.field] newestFirst = .ok query ∧
      sortLines [yearEndField.field] newestFirst =
        [Text.ofString "sort by  TOP3 Reverse", "sort by top3"] ∧
      SortsByDate [yearEndField.field] marchField true "sort by  TOP3 Reverse" ∧
      groupLines [yearEndField.field] newestFirst = [] ∧
      ∃ before on after undated : Filter,
        marchField.compile "top3 before this week" = .ok before ∧
        marchField.compile "top3 on this week" = .ok on ∧
        marchField.compile "top3 after this week" = .ok after ∧
        marchField.compile "no top3 date" = .ok undated ∧
        ∀ tasks : List Task, ∃ sorted : List Task, query.apply id tasks = [⟨[], sorted⟩] ∧
          sorted = [undated, after, on, before].flatMap fun filter =>
            sorted.filter (filter.accepts ·) := by
  have single : '\n' ∉ ("this week" : Text) := by
    rw [Text.ofString_eq]
    decide
  have means : DateRange.read? marchField.today "this week" =
      some ⟨⟨2024, 3, 18, by decide⟩, ⟨2024, 3, 24, by decide⟩, by decide⟩ := by
    with_unfolding_all rfl
  have lawful : ∀ other ∈ [yearEndField.field], ∀ order, other.compare? = some order →
      Std.TransCmp order :=
    DateField.lawful [yearEndField]
  obtain ⟨query, read⟩ : ∃ query, Query.read [yearEndField.field] newestFirst = .ok query :=
    ⟨_, by with_unfolding_all rfl⟩
  have sorters : sortLines [yearEndField.field] newestFirst =
      [Text.ofString "sort by  TOP3 Reverse", "sort by top3"] := by
    with_unfolding_all rfl
  have sorts : SortsByDate [yearEndField.field] marchField true "sort by  TOP3 Reverse" :=
    ⟨⟨" top3 reverse", by with_unfolding_all rfl, by with_unfolding_all rfl⟩,
      yearEndField, rfl, by with_unfolding_all rfl⟩
  have groupers : groupLines [yearEndField.field] newestFirst = [] := by
    with_unfolding_all rfl
  have lines : marchField.dateLine "before" "this week" = "top3 before this week" ∧
      marchField.dateLine "on" "this week" = "top3 on this week" ∧
      marchField.dateLine "after" "this week" = "top3 after this week" ∧
      Text.ofString "no " ++ marchField.name ++ Text.ofString " date" = "no top3 date" := by
    simp [DateField.dateLine, marchField, DateField.top3, Text.ofString_eq]
  obtain ⟨before, on, after, undated, first, second, third, fourth, blocks⟩ :=
    Query.apply_sorts_into_blocks _ lawful marchField "this week" single (.inl ⟨_, means⟩) _ _ _
      true query read sorters sorts groupers
  rw [lines.1] at first
  rw [lines.2.1] at second
  rw [lines.2.2.1] at third
  rw [lines.2.2.2] at fourth
  refine ⟨query, single, means, lawful, read, sorters, sorts, groupers, before, on, after, undated,
    first, second, third, fourth, ?_⟩
  intro tasks
  obtain ⟨sorted, applied, _, inBlocks⟩ := blocks id tasks
  exact ⟨sorted, applied, inBlocks⟩

end TaskQuery
