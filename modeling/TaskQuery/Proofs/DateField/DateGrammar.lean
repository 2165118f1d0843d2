import Mathlib.Data.List.TakeWhile
import TaskQuery.DateField.Basic
import TaskQuery.Proofs.Calendar.Order
import TaskQuery.Proofs.DateField.Keyword

set_option autoImplicit false

namespace TaskQuery

def DateRelation.Asks : DateRelation → DateRange → Date → Prop
  | .before, range, latest => latest < range.first
  | .onOrBefore, range, latest => latest ≤ range.last
  | .on, range, latest => range.first ≤ latest ∧ latest ≤ range.last
  | .onOrAfter, range, latest => range.first ≤ latest
  | .after, range, latest => range.last < latest

def keywordMeanings : List (Text × (DateRange → Date → Prop)) :=
  [("on or before", fun range latest => latest ≤ range.last),
    ("in or before", fun range latest => latest ≤ range.last),
    ("before", fun range latest => latest < range.first),
    ("on or after", fun range latest => range.first ≤ latest),
    ("in or after", fun range latest => range.first ≤ latest),
    ("after", fun range latest => range.last < latest),
    ("on", fun range latest => range.first ≤ latest ∧ latest ≤ range.last),
    ("in", fun range latest => range.first ≤ latest ∧ latest ≤ range.last)]

/-- The shape of what stands behind the name in a line: the text of a date, or a keyword in letters
of either case, at most one space, and the text of a date. -/
inductive DatePhrase : Text → Text → (DateRange → Date → Prop) → Prop where
  | bare (text : Text) :
    DatePhrase text text fun range latest => range.first ≤ latest ∧ latest ≤ range.last
  | keyword (spelling gap text : Text) (meaning : DateRange → Date → Prop)
    (known : (spelling.asciiLower, meaning) ∈ keywordMeanings) (space : gap = [] ∨ gap = [' ']) :
    DatePhrase (spelling ++ gap ++ text) text meaning

def DateField.Names (field : DateField) (line rest : Text) : Prop :=
  ∃ name, line = name ++ ' ' :: rest ∧ name.map foldCase = field.name.map foldCase

theorem DateRelation.holds_iff (relation : DateRelation) (date : Date) (range : DateRange) :
    relation.holds date range = true ↔ relation.Asks range date := by
  cases relation <;> simp [holds, Asks, DateRange.mem_iff]

theorem DateField.accepts_latest (field : DateField) (relation : DateRelation) (range : DateRange)
    (task : Task) :
    field.accepts (.latest relation range) task = true ↔
      ∃ latest ∈ field.dates task,
        (∀ date ∈ field.dates task, date ≤ latest) ∧ relation.Asks range latest := by
  simp only [accepts, Condition.accepts, Option.any_eq_true, Date.latest?_eq_some_iff,
    DateRelation.holds_iff, and_assoc]

theorem keywordMeanings_eq :
    keywordMeanings = dateKeywords.map fun entry => (entry.1, entry.2.Asks) :=
  rfl

theorem mem_keywordMeanings (word : Text) (meaning : DateRange → Date → Prop) :
    (word, meaning) ∈ keywordMeanings ↔
      ∃ relation, (word, relation) ∈ dateKeywords ∧ relation.Asks = meaning := by
  rw [keywordMeanings_eq, List.mem_map]
  constructor
  · intro ⟨⟨_, relation⟩, member, same⟩
    cases same
    exact ⟨relation, member, rfl⟩
  · intro ⟨relation, member, same⟩
    exact ⟨(word, relation), member, by rw [same]⟩

theorem dateOf?_of_keyword (field : DateField) (cs rest : Text) (relation : DateRelation)
    (found : dateKeyword? cs = some (relation, rest))
    (whole : DateRange.read? field.today cs = none) :
    field.dateOf? cs = (DateRange.resolve? field.today rest).map (.latest relation) := by
  simp [DateField.dateOf?, DateField.day?, DateRange.resolve?, found, whole]

theorem dateOf?_of_no_keyword (field : DateField) (cs : Text) (found : dateKeyword? cs = none) :
    field.dateOf? cs = (DateRange.resolve? field.today cs).map (.latest .on) := by
  simp [DateField.dateOf?, DateField.day?, DateRange.resolve?, found]

theorem dateOf?_bare (field : DateField) (text : Text) (range : DateRange)
    (found : DateRange.resolve? field.today text = some range) :
    field.dateOf? text = some (.latest .on range) := by
  have opens := DateRange.resolve?_opensDate field.today text range found
  rw [dateOf?_of_no_keyword field text (dateKeyword?_of_opensDate text opens), found]
  rfl

theorem dateOf?_spelled (field : DateField) (spelling gap text : Text) (relation : DateRelation)
    (range : DateRange) (member : (spelling.asciiLower, relation) ∈ dateKeywords)
    (space : gap = [] ∨ gap = [' '])
    (found : DateRange.resolve? field.today text = some range) :
    field.dateOf? (spelling ++ gap ++ text) = some (.latest relation range) := by
  have behind : DateRange.resolve? field.today (gap ++ text) = some range := by
    rcases space with rfl | rfl
    · exact found
    · rwa [← DateRange.resolve?_dropSpace]
  have ends := not_prefix_of_opensDate _
    (DateRange.resolve?_opensDate field.today _ range behind)
  rw [List.append_assoc, dateOf?_of_keyword field _ (gap ++ text) relation
    (dateKeyword?_spelled member ends) (read?_of_keyword field.today member), behind]
  rfl

theorem DatePhrase.dateOf? (field : DateField) {rest text : Text}
    {meaning : DateRange → Date → Prop} {range : DateRange} (phrase : DatePhrase rest text meaning)
    (found : DateRange.resolve? field.today text = some range) :
    ∃ relation : DateRelation,
      field.dateOf? rest = some (.latest relation range) ∧ relation.Asks = meaning := by
  cases phrase with
  | bare => exact ⟨.on, dateOf?_bare field rest range found, rfl⟩
  | keyword spelling gap text meaning known space =>
    obtain ⟨relation, member, rfl⟩ := (mem_keywordMeanings _ _).mp known
    exact ⟨relation, dateOf?_spelled field spelling gap text relation range member space found, rfl⟩

theorem DatePhrase.of_dateOf? (field : DateField) (rest : Text) (condition : Condition)
    (found : field.dateOf? rest = some condition) :
    ∃ text meaning range, DatePhrase rest text meaning ∧
      DateRange.resolve? field.today text = some range := by
  cases keyword : dateKeyword? rest with
  | none =>
    rw [dateOf?_of_no_keyword field rest keyword] at found
    obtain ⟨range, resolved, _⟩ := Option.map_eq_some_iff.mp found
    exact ⟨rest, _, range, .bare rest, resolved⟩
  | some pair =>
    obtain ⟨relation, behind⟩ := pair
    obtain ⟨spelling, member, rfl⟩ := dateKeyword?_eq_some keyword
    rw [dateOf?_of_keyword field _ behind relation keyword (read?_of_keyword field.today member)]
      at found
    obtain ⟨range, resolved, _⟩ := Option.map_eq_some_iff.mp found
    have phrase := DatePhrase.keyword spelling [] behind relation.Asks
      ((mem_keywordMeanings _ _).mpr ⟨relation, member, rfl⟩) (.inl rfl)
    rw [List.append_nil] at phrase
    exact ⟨behind, _, range, phrase, resolved⟩

theorem DateField.names_iff (field : DateField) (line rest : Text) :
    (field.name ++ " ").stripCaseless? line = some rest ↔ field.Names line rest := by
  rw [Text.stripCaseless?, Text.stripBy?_eq_some]
  constructor
  · intro stripped
    obtain ⟨spelling, shape, folded⟩ := stripped
    rw [List.map_append, List.map_eq_append_iff] at folded
    obtain ⟨name, last, rfl, same, blank⟩ := folded
    have plain : Text.Plain " " := by
      rw [Text.ofString_eq]
      decide
    rw [Text.foldCase_spelling " " last plain] at blank
    have space : last = [' '] := by
      cases last with
      | nil => simp [Text.asciiLower, Text.ofString_eq] at blank
      | cons c last =>
        simp [Text.asciiLower, Text.ofString_eq, toLower_eq_space] at blank
        simp [blank]
    exact ⟨name, by simp [shape, space], same⟩
  · intro names
    obtain ⟨name, shape, folded⟩ := names
    refine ⟨name ++ [' '], by simp [shape], ?_⟩
    simp [folded, Text.ofString_eq]

theorem DateField.Names.single {field : DateField} {line rest : Text}
    (names : field.Names line rest) (single : '\n' ∉ line) : '\n' ∉ rest := by
  obtain ⟨name, rfl, _⟩ := names
  intro member
  exact single (by simp [member])

-- Only what stands behind the name has to be free of line breaks: the name may hold some.
theorem DateField.date?_behind (field : DateField) (line rest : Text) (single : '\n' ∉ rest)
    (names : field.Names line rest) :
    field.date? line = some (match field.dateOf? rest with
      | some condition => .ok condition
      | none => .error (.badDate field.name)) := by
  have whole : rest.takeWhile (· ≠ '\n') = rest := by
    rw [List.takeWhile_eq_self_iff]
    intro c member
    simp only [ne_eq, decide_eq_true_eq]
    rintro rfl
    exact single member
  rw [← field.names_iff] at names
  simp only [date?, names, Option.bind_eq_bind, Option.bind_some, whole]
  cases field.dateOf? rest <;> rfl

theorem DateField.compile_behind (field : DateField) (line rest : Text) (single : '\n' ∉ rest)
    (noPhrase : field.phrase? line = none) (noCount : field.count? line = none)
    (names : field.Names line rest) :
    field.compile line = match field.dateOf? rest with
      | some condition => .ok ⟨line, field.accepts condition, condition.explain field.name⟩
      | none => .error ⟨line, .badDate field.name⟩ := by
  have read : field.read? line = field.date? line := by
    simp [DateField.read?, noPhrase, noCount]
  rw [compile, read, field.date?_behind line rest single names]
  cases field.dateOf? rest <;> rfl

theorem DateField.compile_of_names (field : DateField) (line rest : Text)
    (single : '\n' ∉ line) (noPhrase : field.phrase? line = none)
    (noCount : field.count? line = none) (names : field.Names line rest) :
    field.compile line = match field.dateOf? rest with
      | some condition => .ok ⟨line, field.accepts condition, condition.explain field.name⟩
      | none => .error ⟨line, .badDate field.name⟩ :=
  field.compile_behind line rest (names.single single) noPhrase noCount names

theorem DateField.names_of_compile (field : DateField) (line : Text) (filter : Filter)
    (noPhrase : field.phrase? line = none) (noCount : field.count? line = none)
    (found : field.compile line = .ok filter) : ∃ rest, field.Names line rest := by
  cases names : (field.name ++ " ").stripCaseless? line with
  | none => simp [compile, DateField.read?, noPhrase, noCount, date?, names] at found
  | some rest => exact ⟨rest, (field.names_iff line rest).mp names⟩

/-- A line about dates compiles exactly when the text behind the name has the shape of a date phrase
and resolves. Its filter looks at the latest date of a task alone. -/
theorem DateField.date_grammar_exact (field : DateField) (line : Text) (single : '\n' ∉ line)
    (noPhrase : field.phrase? line = none) (noCount : field.count? line = none) :
    ((∃ filter, field.compile line = .ok filter) ↔
      ∃ rest text meaning range, field.Names line rest ∧ DatePhrase rest text meaning ∧
        DateRange.resolve? field.today text = some range) ∧
    (∀ rest text meaning range, field.Names line rest → DatePhrase rest text meaning →
      DateRange.resolve? field.today text = some range →
      ∃ filter, field.compile line = .ok filter ∧ filter.line = line ∧
        ∀ task : Task, filter.accepts task = true ↔
          ∃ latest ∈ field.dates task,
            (∀ date ∈ field.dates task, date ≤ latest) ∧ meaning range latest) ∧
    ∀ rest, field.Names line rest →
      (¬ ∃ text meaning range, DatePhrase rest text meaning ∧
        DateRange.resolve? field.today text = some range) →
      ∃ error, field.compile line = .error error ∧ error.line = line ∧
        error.problem.message = "do not understand " ++ field.name ++ " date" := by
  have accepted : ∀ rest text meaning range, field.Names line rest →
      DatePhrase rest text meaning → DateRange.resolve? field.today text = some range →
      ∃ filter, field.compile line = .ok filter ∧ filter.line = line ∧
        ∀ task : Task, filter.accepts task = true ↔
          ∃ latest ∈ field.dates task,
            (∀ date ∈ field.dates task, date ≤ latest) ∧ meaning range latest := by
    intro rest text meaning range names phrase resolved
    obtain ⟨relation, read, rfl⟩ := phrase.dateOf? field resolved
    rw [field.compile_of_names line rest single noPhrase noCount names, read]
    exact ⟨_, rfl, rfl, field.accepts_latest relation range⟩
  refine ⟨?_, accepted, ?_⟩
  · constructor
    · intro ⟨filter, found⟩
      obtain ⟨rest, names⟩ := field.names_of_compile line filter noPhrase noCount found
      rw [field.compile_of_names line rest single noPhrase noCount names] at found
      cases read : field.dateOf? rest with
      | none => simp [read] at found
      | some condition =>
        obtain ⟨text, meaning, range, phrase, resolved⟩ := DatePhrase.of_dateOf? field rest _ read
        exact ⟨rest, text, meaning, range, names, phrase, resolved⟩
    · intro ⟨rest, text, meaning, range, names, phrase, resolved⟩
      obtain ⟨filter, found, _⟩ := accepted rest text meaning range names phrase resolved
      exact ⟨filter, found⟩
  · intro rest names refused
    rw [field.compile_of_names line rest single noPhrase noCount names]
    cases read : field.dateOf? rest with
    | none => exact ⟨_, rfl, rfl, rfl⟩
    | some condition => exact absurd (DatePhrase.of_dateOf? field rest condition read) refused

def marchField : DateField :=
  .top3 ⟨2024, 3, 19, by decide⟩

theorem marchField_onOrBefore_next_month :
    '\n' ∉ ("Top3 ON or beforeNext month" : Text) ∧
      marchField.phrase? "Top3 ON or beforeNext month" = none ∧
      marchField.count? "Top3 ON or beforeNext month" = none ∧
      ∃ filter, marchField.compile "Top3 ON or beforeNext month" = .ok filter ∧
        ∀ task : Task, filter.accepts task = true ↔
          ∃ latest ∈ task.dates, (∀ date ∈ task.dates, date ≤ latest) ∧
            latest ≤ ⟨2024, 4, 30, by decide⟩ := by
  have single : '\n' ∉ ("Top3 ON or beforeNext month" : Text) := by decide +kernel
  have noPhrase : marchField.phrase? "Top3 ON or beforeNext month" = none := by decide +kernel
  have noCount : marchField.count? "Top3 ON or beforeNext month" = none := by
    rw [← Option.isNone_iff_eq_none]
    decide +kernel
  have names : marchField.Names "Top3 ON or beforeNext month" "ON or beforeNext month" :=
    ⟨"Top3", by decide +kernel, by decide +kernel⟩
  have phrase : DatePhrase "ON or beforeNext month" "Next month"
      fun range latest => latest ≤ range.last := by
    have shape : ("ON or beforeNext month" : Text) =
        Text.ofString "ON or before" ++ [] ++ Text.ofString "Next month" := by
      decide +kernel
    have lower : Text.asciiLower "ON or before" = "on or before" := by decide +kernel
    rw [shape]
    refine .keyword _ _ _ _ ?_ (.inl rfl)
    rw [lower]
    exact List.mem_cons_self
  have resolved : DateRange.resolve? marchField.today "Next month" =
      some ⟨⟨2024, 4, 1, by decide⟩, ⟨2024, 4, 30, by decide⟩, by decide⟩ := by
    decide +kernel
  obtain ⟨_, accepted, _⟩ := marchField.date_grammar_exact _ single noPhrase noCount
  obtain ⟨filter, found, _, accepts⟩ := accepted _ _ _ _ names phrase resolved
  exact ⟨single, noPhrase, noCount, filter, found, accepts⟩

end TaskQuery
