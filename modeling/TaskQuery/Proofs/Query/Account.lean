import TaskQuery.Proofs.DateField.Remarks
import TaskQuery.Proofs.Query.Directive
import TaskQuery.Proofs.Query.Sorting
import TaskQuery.Query.Explain

set_option autoImplicit false

namespace TaskQuery

theorem eq_of_map_eq {α β : Type} {image : α → β} {items others : List α}
    (inj : ∀ item ∈ items, ∀ other ∈ others, image item = image other → item = other)
    (same : items.map image = others.map image) : items = others := by
  induction items generalizing others with
  | nil =>
    rw [List.map_nil, eq_comm, List.map_eq_nil_iff] at same
    exact same.symm
  | cons item items ih =>
    cases others with
    | nil => cases same
    | cons other others =>
      rw [List.map_cons, List.map_cons, List.cons.injEq] at same
      have first := inj item List.mem_cons_self other List.mem_cons_self same.1
      have rest := ih (fun item member other known =>
        inj item (List.mem_cons_of_mem _ member) other (List.mem_cons_of_mem _ known)) same.2
      rw [first, rest]

namespace Directive

variable {fields : List Field} {line : Text}

theorem not_opened_of_unreserved (unreserved : reserved? fields line.lower = none) :
    ∀ entry ∈ openings fields, ¬ entry.1 <+: line := by
  rintro ⟨opening, reader⟩ known ⟨rest, rfl⟩
  obtain ⟨small, ascii⟩ := openings_small _ known
  have front := Text.lower_prefix opening rest ascii
  rw [small] at front
  obtain ⟨behind, shape⟩ := front
  have refused := (Option.or_eq_none_iff.mp unreserved).2
  have none := List.findSome?_eq_none_iff.mp refused _ known
  simp [(Text.strip?_eq_some opening _ behind).mpr shape.symm] at none

theorem Arises.filter_eq {filter other : Filter} (arises : Arises fields line (.filter filter))
    (arises' : Arises fields line (.filter other)) : filter = other := by
  obtain ⟨_, field, asked, compiled⟩ := arises.of_filter
  obtain ⟨_, field', asked', compiled'⟩ := arises'.of_filter
  obtain rfl := Option.some.inj (asked.symm.trans asked')
  exact Except.ok.inj (compiled.symm.trans compiled')

end Directive

def OpensWith (opening account : Text) : Prop :=
  opening <+: account ∧ '\n' ∉ account

instance (opening account : Text) : Decidable (OpensWith opening account) :=
  inferInstanceAs (Decidable (_ ∧ _))

theorem filter_eq_self_of_opens {opening : Text} {accounts : List Text}
    (opens : ∀ account ∈ accounts, OpensWith opening account) :
    accounts.filter (OpensWith opening ·) = accounts := by
  simpa [List.filter_eq_self] using opens

theorem filter_eq_nil_of_not_opens {opening : Text} {accounts : List Text}
    (closed : ∀ account ∈ accounts, ¬ OpensWith opening account) :
    accounts.filter (OpensWith opening ·) = [] := by
  simpa [List.filter_eq_nil_iff] using closed

namespace Sorter

theorem account_opens (sorter : Sorter) (whole : '\n' ∉ sorter.property) :
    OpensWith "sort by " sorter.account := by
  refine ⟨by simp [account, List.append_assoc], ?_⟩
  by_cases reversed : sorter.reverse <;> simp [account, Text.ofString_eq, whole, reversed]

theorem account_inj {sorter other : Sorter} (word : ∀ c ∈ sorter.property, isBlank c = false)
    (word' : ∀ c ∈ other.property, isBlank c = false) (same : sorter.account = other.account) :
    sorter.property = other.property ∧ sorter.reverse = other.reverse := by
  have blank {property : Text} (word : ∀ c ∈ property, isBlank c = false) : ' ' ∉ property :=
    fun member => absurd (word ' ' member) (by decide)
  -- No property holds the blank in front of `reverse`.
  have apart {property front : Text} (word : ∀ c ∈ property, isBlank c = false) :
      property ≠ front ++ ' ' :: "reverse".toList := by
    rintro rfl
    exact blank word (by simp)
  simp only [account, List.append_assoc, List.append_cancel_left_eq] at same
  cases reversed : sorter.reverse <;> cases reversed' : other.reverse <;>
    simp only [reversed, reversed', Text.ofString_eq, if_true, if_false, List.append_nil,
      Bool.false_eq_true] at same
  · exact ⟨same, rfl⟩
  · exact absurd same (apart word)
  · exact absurd same.symm (apart word')
  · exact ⟨List.append_cancel_right same, rfl⟩

end Sorter

theorem Grouper.account_opens (grouper : Grouper) (whole : '\n' ∉ grouper.property) :
    OpensWith "group by " grouper.account := by
  refine ⟨by simp [account], ?_⟩
  simp [account, Text.ofString_eq, whole]

theorem sort_ne_group (account : Text) (sorts : OpensWith "sort by " account) :
    ¬ OpensWith "group by " account := by
  intro groups
  obtain ⟨rest, rfl⟩ := sorts.1
  obtain ⟨rest', shape⟩ := groups.1
  simp [Text.ofString_eq] at shape

section

variable {fields : List Field} {line line' : Text}

theorem Directive.Arises.sort_eq {sorter other : Sorter}
    (arises : Arises fields line (.sort sorter)) (arises' : Arises fields line' (.sort other))
    (same : sorter.account = other.account) : sorter = other := by
  obtain ⟨word, known⟩ := arises.of_sort
  obtain ⟨word', known'⟩ := arises'.of_sort
  obtain ⟨property, reverse⟩ := Sorter.account_inj word word' same
  rw [property] at known
  have order := Option.some.inj (known.symm.trans known')
  cases sorter
  cases other
  simp_all

theorem Directive.Arises.group_eq {grouper other : Grouper}
    (arises : Arises fields line (.group grouper)) (arises' : Arises fields line' (.group other))
    (same : grouper.account = other.account) : grouper = other := by
  have known := arises.of_group.2
  have property : grouper.property = other.property := List.append_cancel_left same
  rw [property] at known
  have headings := Option.some.inj (known.symm.trans arises'.of_group.2)
  cases grouper
  cases other
  simp_all

theorem Directive.Arises.sort_opens {sorter : Sorter}
    (arises : Arises fields line (.sort sorter)) : OpensWith "sort by " sorter.account :=
  sorter.account_opens fun member => absurd (arises.of_sort.1 '\n' member) (by decide)

theorem Directive.Arises.group_opens {grouper : Grouper} (single : '\n' ∉ line)
    (arises : Arises fields line (.group grouper)) : OpensWith "group by " grouper.account :=
  grouper.account_opens fun member =>
    line.lower_unbroken single (arises.of_group.1 '\n' member)

end

/-- What the account of a filter relies on: its line arises as the filter itself, and its explanation
is neither broken by empty lines nor the one of a query without filters. -/
structure Filter.Accountable (fields : List Field) (filter : Filter) : Prop where
  single : '\n' ∉ filter.line
  speaks : isRemark filter.line = false
  arises : Directive.Arises fields filter.line (.filter filter)
  unbroken : filter.explanation.Unbroken
  special : filter.explanation.text ≠ unfiltered

namespace Filter

variable {fields : List Field} {filter other : Filter}

theorem account_shape (filter : Filter) :
    (filter.account = filter.line ∧ filter.explanation.text = filter.line) ∨
      filter.account = (filter.line ++ " =>") ++ '\n' :: filter.explanation.render "  " := by
  by_cases alone : filter.explanation.text = filter.line
  · exact .inl ⟨by simp [account, alone], alone⟩
  · exact .inr (by simp [account, alone, Text.ofString_eq])

theorem arrow_single (single : '\n' ∉ filter.line) : '\n' ∉ filter.line ++ " =>" := by
  simp [single, Text.ofString_eq]

theorem Accountable.isBlock (accountable : Accountable fields filter) :
    Text.IsBlock filter.account := by
  rcases filter.account_shape with ⟨shape, _⟩ | shape <;> rw [shape]
  · apply Text.isBlock_whole _ accountable.single
    intro empty
    have speaks := accountable.speaks
    simp [isRemark, empty] at speaks
  · have first : Text.IsBlock (filter.line ++ " =>") :=
      Text.isBlock_whole _ (arrow_single accountable.single) (by simp [Text.ofString_eq])
    have tree : Text.IsBlock (filter.explanation.render "  ") :=
      filter.explanation.isBlock_render _ (by simp [Text.ofString_eq]) (by simp [Text.ofString_eq])
        accountable.unbroken
    exact (Text.isBlock_append_break _ _).mpr ⟨first, tree⟩

theorem account_inj (single : '\n' ∉ filter.line) (single' : '\n' ∉ other.line)
    (same : filter.account = other.account) : filter.line = other.line := by
  have opening := congrArg Text.lines same
  -- A line alone has no break, and the other accounts have their first one behind the arrow.
  rcases filter.account_shape with ⟨shape, _⟩ | shape <;>
    rcases other.account_shape with ⟨shape', _⟩ | shape' <;>
    simp only [shape, shape', Text.lines_append_break, Text.lines_whole _ single,
      Text.lines_whole _ single', Text.lines_whole _ (arrow_single single),
      Text.lines_whole _ (arrow_single single')] at opening
  · simpa using opening
  · have count := congrArg List.length opening
    simp [Text.length_lines] at count
  · have count := congrArg List.length opening
    simp [Text.length_lines] at count
  · simp only [List.singleton_append, List.cons.injEq] at opening
    exact List.append_cancel_right opening.1

theorem Accountable.account_eq (accountable : Accountable fields filter)
    (accountable' : Accountable fields other) (same : filter.account = other.account) :
    filter = other := by
  have lines := account_inj accountable.single accountable'.single same
  have arises := accountable.arises
  rw [lines] at arises
  exact arises.filter_eq accountable'.arises

theorem Accountable.not_opens (accountable : Accountable fields filter) :
    ∀ entry ∈ Directive.openings fields, ¬ OpensWith entry.1 filter.account := by
  intro entry known ⟨front, single⟩
  rcases filter.account_shape with ⟨shape, _⟩ | shape
  · rw [shape] at front
    exact Directive.not_opened_of_unreserved accountable.arises.of_filter.1 entry known front
  · simp [shape] at single

theorem Accountable.account_ne_unfiltered (accountable : Accountable fields filter) :
    filter.account ≠ unfiltered := by
  intro same
  rcases filter.account_shape with ⟨shape, alone⟩ | shape
  · exact accountable.special (alone.trans (shape.symm.trans same))
  · have breaks : '\n' ∈ unfiltered := by
      rw [← same, shape]
      simp
    simp [unfiltered, Text.ofString_eq] at breaks

end Filter

theorem DateField.accountable {dates : List DateField} {line : Text} {filter : Filter}
    (spoken : Spoken line)
    (arises : Directive.Arises (dates.map DateField.field) line (.filter filter)) :
    filter.Accountable (dates.map DateField.field) := by
  obtain ⟨_, field, asked, compiled⟩ := arises.of_filter
  obtain ⟨date, _, rfl⟩ := List.mem_map.mp (List.mem_of_find?_eq_some asked)
  obtain ⟨condition, read, rfl⟩ := (date.compile_eq_ok_iff line filter).mp compiled
  refine ⟨spoken.whole, spoken.speaks, arises,
    date.explain_unbroken line spoken.whole condition read, ?_⟩
  intro same
  apply condition.explain_last date.name
  rw [same]
  simp [unfiltered, Text.ofString_eq]

structure Query.Legible (fields : List Field) (query : Query) : Prop where
  filters : ∀ filter ∈ query.filters, filter.Accountable fields
  sorters : ∀ sorter ∈ query.sorters, ∃ line, Directive.Arises fields line (.sort sorter)
  groupers : ∀ grouper ∈ query.groupers, ∃ line, '\n' ∉ line ∧
    Directive.Arises fields line (.group grouper)

theorem Query.legible {dates : List DateField} {source : Text} {query : Query}
    (read : Query.read (dates.map DateField.field) source = .ok query) :
    query.Legible (dates.map DateField.field) := by
  obtain ⟨filters, sorters, groupers⟩ := Query.exists_line read
  refine ⟨?_, ?_, ?_⟩
  · intro filter member
    obtain ⟨line, spoken, arises⟩ := filters filter member
    exact DateField.accountable spoken arises
  · intro sorter member
    obtain ⟨line, _, arises⟩ := sorters sorter member
    exact ⟨line, arises⟩
  · intro grouper member
    obtain ⟨line, spoken, arises⟩ := groupers grouper member
    exact ⟨line, spoken.whole, arises⟩

namespace Query

def filterAccounts (query : Query) : List Text :=
  if query.filters.isEmpty then [unfiltered] else query.filters.map Filter.account

theorem accounts_eq (query : Query) : query.accounts =
    query.filterAccounts ++ query.sorters.map Sorter.account ++
      query.groupers.map Grouper.account :=
  rfl

theorem accounts_ne_nil (query : Query) : query.accounts ≠ [] := by
  cases filters : query.filters <;> simp [accounts, filters]

variable {fields : List Field} {query other : Query}

theorem Legible.of_mem_filterAccounts (legible : query.Legible fields) :
    ∀ account ∈ query.filterAccounts, account = unfiltered ∨
      ∃ filter : Filter, filter.Accountable fields ∧ account = filter.account := by
  intro account member
  unfold filterAccounts at member
  split at member
  next => exact .inl (List.mem_singleton.mp member)
  next =>
    obtain ⟨filter, known, rfl⟩ := List.mem_map.mp member
    exact .inr ⟨filter, legible.filters filter known, rfl⟩

theorem Legible.filterAccounts_opens (legible : query.Legible fields) :
    ∀ account ∈ query.filterAccounts,
      ¬ OpensWith "sort by " account ∧ ¬ OpensWith "group by " account := by
  intro account member
  rcases legible.of_mem_filterAccounts account member with rfl | ⟨filter, accountable, rfl⟩
  · simp [OpensWith, unfiltered, Text.ofString_eq]
  · exact ⟨accountable.not_opens ("sort by ", Directive.readSort fields)
        (by simp [Directive.openings]),
      accountable.not_opens ("group by ", fun cs => Directive.groupBy fields cs.trim)
        (by simp [Directive.openings])⟩

theorem Legible.sortAccounts_open (legible : query.Legible fields) :
    ∀ account ∈ query.sorters.map Sorter.account,
      OpensWith "sort by " account ∧ ¬ OpensWith "group by " account := by
  intro account member
  obtain ⟨sorter, known, rfl⟩ := List.mem_map.mp member
  obtain ⟨_, arises⟩ := legible.sorters sorter known
  exact ⟨arises.sort_opens, sort_ne_group _ arises.sort_opens⟩

theorem Legible.groupAccounts_open (legible : query.Legible fields) :
    ∀ account ∈ query.groupers.map Grouper.account,
      ¬ OpensWith "sort by " account ∧ OpensWith "group by " account := by
  intro account member
  obtain ⟨grouper, known, rfl⟩ := List.mem_map.mp member
  obtain ⟨_, single, arises⟩ := legible.groupers grouper known
  have groups := arises.group_opens single
  exact ⟨fun sorts => sort_ne_group _ sorts groups, groups⟩

theorem Legible.isBlock (legible : query.Legible fields) :
    ∀ account ∈ query.accounts, Text.IsBlock account := by
  have line {opening account : Text} (opens : OpensWith opening account) (nonempty : opening ≠ []) :
      Text.IsBlock account := by
    apply Text.isBlock_whole account opens.2
    rintro rfl
    exact nonempty (List.prefix_nil.mp opens.1)
  intro account member
  rw [accounts_eq, List.mem_append, List.mem_append] at member
  rcases member with (told | sorts) | groups
  · rcases legible.of_mem_filterAccounts account told with rfl | ⟨filter, accountable, rfl⟩
    · apply Text.isBlock_whole <;> simp [unfiltered, Text.ofString_eq]
    · exact accountable.isBlock
  · exact line (legible.sortAccounts_open account sorts).1 (by simp [Text.ofString_eq])
  · exact line (legible.groupAccounts_open account groups).2 (by simp [Text.ofString_eq])

theorem Legible.accounts_filter (legible : query.Legible fields) :
    query.accounts.filter (OpensWith "sort by " ·) = query.sorters.map Sorter.account ∧
      query.accounts.filter (OpensWith "group by " ·) = query.groupers.map Grouper.account := by
  have filters := legible.filterAccounts_opens
  have sorters := legible.sortAccounts_open
  have groupers := legible.groupAccounts_open
  constructor
  · rw [accounts_eq, List.filter_append, List.filter_append,
      filter_eq_nil_of_not_opens fun account member => (filters account member).1,
      filter_eq_self_of_opens fun account member => (sorters account member).1,
      filter_eq_nil_of_not_opens fun account member => (groupers account member).1]
    simp
  · rw [accounts_eq, List.filter_append, List.filter_append,
      filter_eq_nil_of_not_opens fun account member => (filters account member).2,
      filter_eq_nil_of_not_opens fun account member => (sorters account member).2,
      filter_eq_self_of_opens fun account member => (groupers account member).2]
    simp

theorem Legible.filters_eq (legible : query.Legible fields) (legible' : other.Legible fields)
    (same : query.filterAccounts = other.filterAccounts) : query.filters = other.filters := by
  have apart {query : Query} (legible : query.Legible fields) :
      query.filters.map Filter.account ≠ [unfiltered] := by
    intro single
    obtain ⟨filter, filters, account⟩ := List.map_eq_singleton_iff.mp single
    exact (legible.filters filter (by simp [filters])).account_ne_unfiltered account
  unfold filterAccounts at same
  split at same <;> split at same
  next none none' => rw [List.isEmpty_iff.mp none, List.isEmpty_iff.mp none']
  next => exact absurd same.symm (apart legible')
  next => exact absurd same (apart legible)
  next =>
    apply eq_of_map_eq _ same
    intro filter member filter' member'
    exact (legible.filters filter member).account_eq (legible'.filters filter' member')

theorem Legible.parts_eq (legible : query.Legible fields) (legible' : other.Legible fields)
    (same : query.explain = other.explain) :
    query.filters = other.filters ∧ query.sorters = other.sorters ∧
      query.groupers = other.groupers := by
  have accounts : query.accounts = other.accounts := by
    rw [← Text.blocks_join query.accounts query.accounts_ne_nil legible.isBlock,
      ← Text.blocks_join other.accounts other.accounts_ne_nil legible'.isBlock]
    exact congrArg Text.blocks same
  have sorted : query.sorters.map Sorter.account = other.sorters.map Sorter.account := by
    rw [← legible.accounts_filter.1, accounts, legible'.accounts_filter.1]
  have grouped : query.groupers.map Grouper.account = other.groupers.map Grouper.account := by
    rw [← legible.accounts_filter.2, accounts, legible'.accounts_filter.2]
  have filtered : query.filterAccounts = other.filterAccounts := by
    rw [accounts_eq, accounts_eq, sorted, grouped, List.append_assoc, List.append_assoc] at accounts
    exact List.append_cancel_right accounts
  refine ⟨legible.filters_eq legible' filtered, ?_, ?_⟩
  · apply eq_of_map_eq _ sorted
    intro sorter member sorter' member'
    obtain ⟨_, arises⟩ := legible.sorters sorter member
    obtain ⟨_, arises'⟩ := legible'.sorters sorter' member'
    exact arises.sort_eq arises'
  · apply eq_of_map_eq _ grouped
    intro grouper member grouper' member'
    obtain ⟨_, _, arises⟩ := legible.groupers grouper member
    obtain ⟨_, _, arises'⟩ := legible'.groupers grouper' member'
    exact arises.group_eq arises'

end Query

/-- Two documents about the same date fields that are explained alike select, order and group
alike. -/
theorem Query.apply_of_explain (dates : List DateField) (source other : Text)
    (query query' : Query) (read : Query.read (dates.map DateField.field) source = .ok query)
    (read' : Query.read (dates.map DateField.field) other = .ok query')
    (same : query.explain = query'.explain) {α : Type} (task : α → Task) (items : List α) :
    query.apply task items = query'.apply task items := by
  obtain ⟨filters, sorters, groupers⟩ :=
    (Query.legible read).parts_eq (Query.legible read') same
  apply Query.apply_congr _ sorters groupers
  intro task
  rw [Query.accepts, filters, Query.accepts]

theorem countsThenSort_explained_alike :
    ∃ query query' : Query,
      Query.read [yearEndField.field, againField.field] "top3 count>1\nsort by again" =
        .ok query ∧
      Query.read [yearEndField.field, againField.field] "SORT BY Again\nshort\ntop3 count>1" =
        .ok query' ∧
      query.explain = query'.explain ∧
      query.apply id [⟨"tea", [], 2⟩, ⟨"cake", [], 3⟩] =
        query'.apply id [⟨"tea", [], 2⟩, ⟨"cake", [], 3⟩] := by
  let sorter : Sorter := ⟨"again", compareLatest againField.dates, false⟩
  let filter : Filter :=
    ⟨"top3 count>1", yearEndField.accepts (.count .more 1), (Condition.count .more 1).explain "top3"⟩
  have read : Query.read [yearEndField.field, againField.field] "top3 count>1\nsort by again" =
      .ok (Query.of [.filter filter, .sort sorter]) := by
    with_unfolding_all rfl
  have read' : Query.read [yearEndField.field, againField.field]
        "SORT BY Again\nshort\ntop3 count>1" =
      .ok (Query.of [.sort sorter, .short true, .filter filter]) := by
    with_unfolding_all rfl
  exact ⟨_, _, read, read', rfl,
    Query.apply_of_explain [yearEndField, againField] _ _ _ _ read read' rfl id _⟩

end TaskQuery
