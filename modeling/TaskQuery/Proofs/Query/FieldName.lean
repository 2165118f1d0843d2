import TaskQuery.Proofs.Query.Directive
import TaskQuery.Proofs.Text.Words

set_option autoImplicit false

namespace TaskQuery

/-- A field that a line can name: its name is a line with visible ends, and no field before it has
the same name, the case of ASCII letters aside. -/
structure Nameable (before : List Field) (field : Field) : Prop where
  nonempty : field.name ≠ []
  trimmed : field.name.trim = field.name
  whole : '\n' ∉ field.name
  first : ∀ earlier ∈ before, earlier.name.asciiLower ≠ field.name.asciiLower

def SortsBy (fields : List Field) (field : Field) (line : Text) : Prop :=
  ∃ property order, Query.read fields line = .ok (Query.of [.sort ⟨property, order, false⟩]) ∧
    Field.find? fields property = some field ∧ field.compare? = some order

def GroupsBy (fields : List Field) (field : Field) (line : Text) : Prop :=
  ∃ property headings, Query.read fields line = .ok (Query.of [.group ⟨property, headings⟩]) ∧
    Field.find? fields property = some field ∧ field.headings? = some headings

theorem Field.find?_named (before after : List Field) (field : Field) (property : Text)
    (first : ∀ earlier ∈ before, earlier.name.asciiLower ≠ field.name.asciiLower) :
    find? (before ++ field :: after) property = some field ↔
      property.asciiLower = field.name.asciiLower := by
  constructor
  · intro found
    have same := List.find?_some found
    exact (of_decide_eq_true same).symm
  · intro same
    have missing : before.find? (·.name.asciiLower = property.asciiLower) = none := by
      rw [List.find?_eq_none]
      intro earlier member
      simpa [same] using first earlier member
    rw [find?, List.find?_append, missing]
    simp [same]

namespace Directive

variable {fields : List Field}

-- An opening ends in a space, so what follows it is lowered as if it stood alone.
theorem openings_end : ∀ entry ∈ openings fields, entry.1.getLast? = some ' ' := by
  simp [openings, Text.ofString_eq]

theorem openings_begin : ∀ entry ∈ openings fields, '\n' ∉ entry.1 ∧
    ∃ c, entry.1.head? = some c ∧ isBlank c = false ∧ c ≠ '#' := by
  simp only [openings, List.forall_mem_cons, Text.ofString_eq]
  simp
  decide

section

variable {opening : Text} {reader : Text → Except Problem Directive}
  (known : (opening, reader) ∈ openings fields)

include known

theorem read_opened (rest : Text) : Directive.read fields (opening ++ rest) =
    (reader rest.lower).mapError (CompileError.mk (opening ++ rest)) := by
  obtain ⟨small, ascii⟩ := openings_small _ known
  exact read_opening known (Text.lower_opening opening rest ascii small (openings_end _ known))

theorem spoken_opened {rest : Text} (framed : rest.Framed) (whole : '\n' ∉ rest) :
    Spoken (opening ++ rest) := by
  obtain ⟨single, c, opens, visible, speaks⟩ := openings_begin _ known
  refine ⟨?_, (framed.append opening ⟨c, opens, visible⟩).trim, ?_⟩
  · simp [single, whole]
  · obtain ⟨others, rfl⟩ := List.head?_eq_some_iff.mp opens
    simpa [isRemark] using speaks

theorem read_opened_iff {rest : Text} (framed : rest.Framed) (whole : '\n' ∉ rest)
    (query : Query) : Query.read fields (opening ++ rest) = .ok query ↔
      ∃ directive, reader rest.lower = .ok directive ∧ Query.of [directive] = query := by
  rw [Query.read_spoken fields _ (spoken_opened known framed whole), read_opened known]
  cases reader rest.lower <;> simp [Except.mapError]

end

theorem sortBy_eq_ok (property : Text) (reverse : Bool) (directive : Directive) :
    sortBy fields property reverse = .ok directive ↔ ∃ order,
      (Field.find? fields property).bind Field.compare? = some order ∧
        directive = .sort ⟨property, order, reverse⟩ := by
  unfold sortBy
  split
  next order known => simp [known, eq_comm]
  next none => simp [none]

theorem readSort_word (word : Text) (nonempty : word ≠ [])
    (visible : ∀ c ∈ word, isBlank c = false) :
    readSort fields word = sortBy fields word false := by
  rw [readSort, Text.words_visible word nonempty visible]

theorem groupBy_eq_ok (property : Text) (directive : Directive) :
    groupBy fields property = .ok directive ↔ ∃ headings,
      (Field.find? fields property).bind Field.headings? = some headings ∧
        directive = .group ⟨property, headings⟩ := by
  unfold groupBy
  split
  next headings known => simp [known, eq_comm]
  next none => simp [none]

end Directive

theorem Query.of_eq_sort (directive : Directive) (sorter : Sorter) :
    Query.of [directive] = Query.of [.sort sorter] ↔ directive = .sort sorter := by
  cases directive <;> simp [Query.of, Query.add]

theorem Query.of_eq_group (directive : Directive) (grouper : Grouper) :
    Query.of [directive] = Query.of [.group grouper] ↔ directive = .group grouper := by
  cases directive <;> simp [Query.of, Query.add]

section

variable {before : List Field} {field : Field} (nameable : Nameable before field)
  (after : List Field)

include nameable

theorem Nameable.framed : field.name.Framed :=
  Text.framed_of_trim nameable.trimmed nameable.nonempty

theorem Nameable.visible_of_sorts {line : Text}
    (sorts : SortsBy (before ++ field :: after) field line) :
    ∀ c ∈ field.name, isBlank c = false := by
  obtain ⟨property, order, read, found, -⟩ := sorts
  obtain ⟨_, _, arises⟩ := (Query.exists_line read).2.1 ⟨property, order, false⟩
    (by simp [Query.of, Query.add])
  -- What a line sorts by is a word, and the case of its letters does not make a character blank.
  have word : ∀ c ∈ property, isBlank c = false := arises.of_sort.1
  have same := (Field.find?_named before after field property nameable.first).mp found
  intro c member
  have named : c.toLower ∈ property.asciiLower := same ▸ List.mem_map_of_mem member
  obtain ⟨d, written, small⟩ := List.mem_map.mp named
  rw [← isBlank_toLower, ← small, isBlank_toLower]
  exact word d written

theorem Nameable.sorts_by_name_iff (sortable : field.compare?.isSome) :
    SortsBy (before ++ field :: after) field (Text.ofString "sort by " ++ field.name) ↔
      (∀ c ∈ field.name, isBlank c = false) ∧
        field.name.lower.asciiLower = field.name.asciiLower := by
  have named (property : Text) :=
    Field.find?_named before after field property nameable.first
  have known : (Text.ofString "sort by ", Directive.readSort (before ++ field :: after)) ∈
      Directive.openings (before ++ field :: after) := by simp [Directive.openings]
  have framed := nameable.framed
  have reads (sorter : Sorter) := Directive.read_opened_iff known framed nameable.whole
    (Query.of [.sort sorter])
  have nonempty : field.name.lower ≠ [] := (framed.lower []).ne_nil
  have once (visible : ∀ c ∈ field.name, isBlank c = false) :
      Directive.readSort (before ++ field :: after) field.name.lower =
        Directive.sortBy (before ++ field :: after) field.name.lower false :=
    Directive.readSort_word field.name.lower nonempty
      (Text.lowerBehind_visible [] field.name visible)
  constructor
  · intro sorts
    have visible := nameable.visible_of_sorts after sorts
    obtain ⟨property, order, read, found, -⟩ := sorts
    obtain ⟨directive, spoken, same⟩ := (reads _).mp read
    rw [Query.of_eq_sort] at same
    rw [once visible, Directive.sortBy_eq_ok] at spoken
    obtain ⟨_, _, rfl⟩ := spoken
    cases same
    exact ⟨visible, (named _).mp found⟩
  · rintro ⟨visible, same⟩
    obtain ⟨order, compares⟩ := Option.isSome_iff_exists.mp sortable
    have found := (named field.name.lower).mpr same
    refine ⟨field.name.lower, order, (reads _).mpr ⟨_, ?_, rfl⟩, found, compares⟩
    rw [once visible, Directive.sortBy_eq_ok]
    exact ⟨order, by simp [found, compares], rfl⟩

theorem Nameable.groups_by_name_iff (groupable : field.headings?.isSome) :
    GroupsBy (before ++ field :: after) field (Text.ofString "group by " ++ field.name) ↔
      field.name.lower.asciiLower = field.name.asciiLower := by
  have named (property : Text) :=
    Field.find?_named before after field property nameable.first
  have known : (Text.ofString "group by ",
      fun cs => Directive.groupBy (before ++ field :: after) (Text.trim cs)) ∈
      Directive.openings (before ++ field :: after) := by simp [Directive.openings]
  have reads (grouper : Grouper) := Directive.read_opened_iff known nameable.framed nameable.whole
    (Query.of [.group grouper])
  have trimmed : field.name.lower.trim = field.name.lower := (nameable.framed.lower []).trim
  simp only [trimmed, Directive.groupBy_eq_ok] at reads
  constructor
  · rintro ⟨property, headings, read, found, -⟩
    obtain ⟨_, ⟨_, _, rfl⟩, same⟩ := (reads _).mp read
    rw [Query.of_eq_group] at same
    cases same
    exact (named _).mp found
  · intro same
    obtain ⟨headings, groups⟩ := Option.isSome_iff_exists.mp groupable
    have found := (named field.name.lower).mpr same
    exact ⟨field.name.lower, headings,
      (reads _).mpr ⟨_, ⟨headings, by simp [found, groups], rfl⟩, rfl⟩, found, groups⟩

/-- When the lines with the name of a field sort and group by it. A name of two words or more only
groups, and a name with a letter whose small form is beyond ASCII may do neither. -/
theorem sorts_and_groups_by_name (sortable : field.compare?.isSome)
    (groupable : field.headings?.isSome) :
    (SortsBy (before ++ field :: after) field (Text.ofString "sort by " ++ field.name) ↔
      (∀ c ∈ field.name, isBlank c = false) ∧
        field.name.lower.asciiLower = field.name.asciiLower) ∧
    (GroupsBy (before ++ field :: after) field (Text.ofString "group by " ++ field.name) ↔
      field.name.lower.asciiLower = field.name.asciiLower) :=
  ⟨nameable.sorts_by_name_iff after sortable, nameable.groups_by_name_iff after groupable⟩

end

def harvestDay : Field := { yearEndField with name := "Harvest day" : DateField }.field

def dueField : Field := { yearEndField with name := "Due" : DateField }.field

def apples : Field := { yearEndField with name := "Äpfel" : DateField }.field

def gardenFields : List Field := [harvestDay, dueField, apples]

theorem dueField_sorts_and_groups :
    Nameable [harvestDay] dueField ∧ dueField.compare?.isSome ∧ dueField.headings?.isSome ∧
      SortsBy gardenFields dueField (Text.ofString "sort by " ++ dueField.name) ∧
      GroupsBy gardenFields dueField (Text.ofString "group by " ++ dueField.name) := by
  have nameable : Nameable [harvestDay] dueField := by
    constructor <;> with_unfolding_all decide
  obtain ⟨sorts, groups⟩ := sorts_and_groups_by_name nameable [apples] rfl rfl
  have small : dueField.name.lower.asciiLower = dueField.name.asciiLower := by
    with_unfolding_all rfl
  have visible : ∀ c ∈ dueField.name, isBlank c = false := by
    simp only [dueField, DateField.field, Text.ofString_eq]
    simp
    decide
  exact ⟨nameable, rfl, rfl, sorts.mpr ⟨visible, small⟩, groups.mpr small⟩

-- A name of two words is refused as a word and an order, and `ä` is not `Ä` in the case of ASCII.
theorem harvestDay_groups_only :
    Nameable [] harvestDay ∧
      ¬ SortsBy gardenFields harvestDay (Text.ofString "sort by " ++ harvestDay.name) ∧
      GroupsBy gardenFields harvestDay (Text.ofString "group by " ++ harvestDay.name) ∧
    Nameable [harvestDay, dueField] apples ∧
      ¬ SortsBy gardenFields apples (Text.ofString "sort by " ++ apples.name) ∧
      ¬ GroupsBy gardenFields apples (Text.ofString "group by " ++ apples.name) := by
  have harvest : Nameable [] harvestDay := by
    constructor <;> with_unfolding_all decide
  have nameable : Nameable [harvestDay, dueField] apples := by
    constructor <;> with_unfolding_all decide
  have unknown : Query.read gardenFields (Text.ofString "sort by " ++ harvestDay.name) =
      .error ⟨1, ⟨"sort by Harvest day", .unknownLine⟩⟩ := by
    with_unfolding_all rfl
  have unsorted : Query.read gardenFields (Text.ofString "sort by " ++ apples.name) =
      .error ⟨1, ⟨"sort by Äpfel", .unsortable "äpfel"⟩⟩ := by
    with_unfolding_all rfl
  have ungrouped : Query.read gardenFields (Text.ofString "group by " ++ apples.name) =
      .error ⟨1, ⟨"group by Äpfel", .ungroupable "äpfel"⟩⟩ := by
    with_unfolding_all rfl
  have groups : GroupsBy gardenFields harvestDay (Text.ofString "group by " ++ harvestDay.name) :=
    (harvest.groups_by_name_iff [dueField, apples] rfl).mpr (by with_unfolding_all rfl)
  refine ⟨harvest, ?_, groups, nameable, ?_, ?_⟩
  · simp [SortsBy, unknown]
  · simp [SortsBy, unsorted]
  · simp [GroupsBy, ungrouped]

end TaskQuery
