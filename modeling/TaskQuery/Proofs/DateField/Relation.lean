import TaskQuery.Proofs.DateField.DateGrammar
import TaskQuery.Proofs.Text.Lower

set_option autoImplicit false

namespace TaskQuery

def DateField.dateLine (field : DateField) (keyword text : Text) : Text :=
  field.name ++ " " ++ keyword ++ " " ++ text

def Filter.Unites (filter : Filter) (parts : List Filter) : Prop :=
  ∀ task, filter.accepts task = parts.any (·.accepts task)

def DateField.CompilesTo (field : DateField) (line : Text) (parts : List Filter) : Prop :=
  ∃ filter, field.compile line = .ok filter ∧ filter.Unites parts

theorem DateRange.position (range : DateRange) (date : Date) :
    date < range.first ∨ date ∈ range ∨ range.last < date := by
  rcases lt_or_ge date range.first with earlier | first
  · exact .inl earlier
  rcases lt_or_ge range.last date with later | last
  · exact .inr (.inr later)
  · exact .inr (.inl ((range.mem_iff date).mpr ⟨first, last⟩))

namespace DateRelation

variable {date : Date} {range : DateRange}

theorem holds_of_lt (earlier : date < range.first) :
    before.holds date range = true ∧ onOrBefore.holds date range = true ∧
      on.holds date range = false ∧ onOrAfter.holds date range = false ∧
      after.holds date range = false := by
  have last : date ≤ range.last := (earlier.trans_le range.ordered).le
  simp [holds, DateRange.mem_iff, earlier, last]

theorem holds_of_mem (inside : date ∈ range) :
    before.holds date range = false ∧ onOrBefore.holds date range = true ∧
      on.holds date range = true ∧ onOrAfter.holds date range = true ∧
      after.holds date range = false := by
  obtain ⟨first, last⟩ := (range.mem_iff date).mp inside
  simp [holds, inside, first, last]

theorem holds_of_gt (later : range.last < date) :
    before.holds date range = false ∧ onOrBefore.holds date range = false ∧
      on.holds date range = false ∧ onOrAfter.holds date range = true ∧
      after.holds date range = true := by
  have first : range.first ≤ date := (range.ordered.trans_lt later).le
  simp [holds, DateRange.mem_iff, later, first]

theorem onOrBefore_holds :
    onOrBefore.holds date range = (before.holds date range || on.holds date range) := by
  rcases range.position date with earlier | inside | later
  · simp [holds_of_lt earlier]
  · simp [holds_of_mem inside]
  · simp [holds_of_gt later]

theorem onOrAfter_holds :
    onOrAfter.holds date range = (on.holds date range || after.holds date range) := by
  rcases range.position date with earlier | inside | later
  · simp [holds_of_lt earlier]
  · simp [holds_of_mem inside]
  · simp [holds_of_gt later]

end DateRelation

theorem Date.ne_nil_of_latest? {dates : List Date} {latest : Date}
    (found : Date.latest? dates = some latest) : dates ≠ [] := by
  rw [ne_eq, ← Date.latest?_eq_none_iff, found]
  exact Option.some_ne_none latest

namespace Condition

variable (range : DateRange) (dates : List Date) (count : Nat)

theorem shares :
    [latest .before range, latest .on range, latest .after range, undated, dated].map
        (·.accepts dates count) ∈
      [[true, false, false, false, true], [false, true, false, false, true],
        [false, false, true, false, true], [false, false, false, true, false]] := by
  cases found : Date.latest? dates with
  | none =>
    obtain rfl := (Date.latest?_eq_none_iff dates).mp found
    simp [accepts, found]
  | some date =>
    have dated := Date.ne_nil_of_latest? found
    rcases range.position date with earlier | inside | later
    · simp [accepts, found, dated, DateRelation.holds_of_lt earlier]
    · simp [accepts, found, dated, DateRelation.holds_of_mem inside]
    · simp [accepts, found, dated, DateRelation.holds_of_gt later]

theorem partition :
    [latest .before range, latest .on range, latest .after range, undated].countP
      (·.accepts dates count) = 1 := by
  have rows := shares range dates count
  simp only [List.map_cons, List.map_nil, List.mem_cons, List.cons.injEq, List.not_mem_nil,
    or_false, and_true] at rows
  rcases rows with row | row | row | row <;> simp [row]

theorem dated_accepts :
    dated.accepts dates count =
      [latest .before range, latest .on range, latest .after range].any
        (·.accepts dates count) := by
  have rows := shares range dates count
  simp only [List.map_cons, List.map_nil, List.mem_cons, List.cons.injEq, List.not_mem_nil,
    or_false, and_true] at rows
  rcases rows with row | row | row | row <;> simp [row]

theorem onOrBefore_accepts :
    (latest .onOrBefore range).accepts dates count =
      [latest .before range, latest .on range].any (·.accepts dates count) := by
  cases found : Date.latest? dates <;> simp [accepts, found, DateRelation.onOrBefore_holds]

theorem onOrAfter_accepts :
    (latest .onOrAfter range).accepts dates count =
      [latest .on range, latest .after range].any (·.accepts dates count) := by
  cases found : Date.latest? dates <;> simp [accepts, found, DateRelation.onOrAfter_holds]

end Condition

theorem lower_date_suffix (front : Text) :
    [' ', 'd', 'a', 't', 'e'] <:+ (front ++ " date").lower := by
  have ascii : ∀ c ∈ (" date" : Text), isAscii c = true := by
    rw [Text.ofString_eq]
    simp [isAscii]
  have lower : Text.asciiLower " date" = [' ', 'd', 'a', 't', 'e'] := by
    rw [Text.ofString_eq]
    decide
  have back := Text.lower_suffix front " date" ascii
  rwa [lower] at back

theorem phrase?_of_closing (field : DateField) (line : Text) (c : Char)
    (closes : line.closing? = some c) (other : c ≠ 'e') : field.phrase? line = none := by
  -- Both phrases end in the e of `date`.
  have apart (front : Text) : (front ++ " date").lower ≠ line.lower := by
    intro same
    have last : line.lower.getLast? = some 'e' := by
      obtain ⟨before, whole⟩ := lower_date_suffix front
      rw [← same, ← whole]
      simp
    have ends := Text.closing?_of_lower line 'e' (by decide) (by decide) (by decide) last
    rw [closes] at ends
    cases ends
    exact other rfl
  simp [DateField.phrase?, Phrasebook.entry?, DateField.phrases, Phrasebook.add, datedPhrase,
    undatedPhrase, apart, -List.append_assoc]

theorem DateField.strip_count (field : DateField) (line : Text) :
    (field.name ++ " count").stripCaseless? line =
      ((field.name ++ " ").stripCaseless? line).bind (Text.stripCaseless? "count") := by
  have words : (" count" : Text) = Text.ofString " " ++ Text.ofString "count" := by
    simp [Text.ofString_eq]
  rw [words, ← List.append_assoc]
  exact Text.stripBy?_concat foldCase _ _ line

theorem count?_of_opening (field : DateField) (line rest : Text) (names : field.Names line rest)
    (c : Char) (opens : rest.opening? = some c) (other : c ≠ 'c') : field.count? line = none := by
  have plain : Text.Plain "count" := by
    rw [Text.ofString_eq]
    decide
  have refused : Text.stripCaseless? "count" rest = none := by
    rw [Option.eq_none_iff_forall_ne_some]
    intro behind found
    obtain ⟨spelling, rfl, lower⟩ := (Text.stripCaseless?_eq_some _ _ _ plain).mp found
    have first : spelling.opening? = some 'c' := by
      rw [Text.opening?, ← Text.unspaced_asciiLower, lower, Text.ofString_eq]
      decide
    rw [Text.opening?_append spelling behind 'c' first] at opens
    cases opens
    exact other rfl
  have absent : (field.name ++ " count").stripCaseless? line = none := by
    rw [field.strip_count, (field.names_iff line rest).mpr names]
    exact refused
  simp [DateField.count?, absent]

theorem dateKeywords_lower : ∀ entry ∈ dateKeywords, entry.1.asciiLower = entry.1 := by
  simp only [dateKeywords, Text.ofString_eq]
  decide

theorem DateField.names_self (field : DateField) (rest : Text) :
    field.Names (field.name ++ " " ++ rest) rest :=
  ⟨field.name, by simp [Text.ofString_eq], rfl⟩

theorem DateField.compile_words (field : DateField) (words : Text) (condition : Condition)
    (single : '\n' ∉ words) (opens : ∃ c, words.opening? = some c ∧ c ≠ 'c')
    (closes : ∃ c, words.closing? = some c ∧ c ≠ 'e')
    (means : field.dateOf? words = some condition) :
    field.compile (field.name ++ " " ++ words) =
      .ok ⟨field.name ++ " " ++ words, field.accepts condition, condition.explain field.name⟩ := by
  obtain ⟨first, opens, notCount⟩ := opens
  obtain ⟨last, closes, notPhrase⟩ := closes
  have names := field.names_self words
  have noCount := count?_of_opening field _ words names first opens notCount
  have noPhrase := phrase?_of_closing field (field.name ++ " " ++ words) last
    (Text.closing?_append _ words last closes) notPhrase
  rw [field.compile_behind _ words single noPhrase noCount names, means]

theorem Text.DateShaped.not_phrase {cs : Text} (shaped : cs.DateShaped) :
    ∃ c, cs.closing? = some c ∧ c ≠ 'e' := by
  obtain ⟨c, closes, final⟩ := shaped.closes
  refine ⟨c, closes, ?_⟩
  rintro rfl
  rcases final with digit | final
  · cases digit
  · exact absurd final (by decide)

theorem Text.DateShaped.not_count {cs : Text} (shaped : cs.DateShaped) :
    ∃ c, cs.opening? = some c ∧ c ≠ 'c' := by
  obtain ⟨c, opens, other⟩ := shaped.opens_apart ['c'] (by simp [dateInitials])
  exact ⟨c, opens, by simpa using other⟩

namespace DatePhrase

variable {rest text : Text} {meaning : DateRange → Date → Prop}

theorem not_phrase (phrase : DatePhrase rest text meaning) (shaped : text.DateShaped) :
    ∃ c, rest.closing? = some c ∧ c ≠ 'e' := by
  obtain ⟨c, closes, other⟩ := shaped.not_phrase
  cases phrase with
  | bare => exact ⟨c, closes, other⟩
  | keyword spelling gap => exact ⟨c, Text.closing?_append (spelling ++ gap) text c closes, other⟩

theorem not_count (phrase : DatePhrase rest text meaning) (shaped : text.DateShaped) :
    ∃ c, rest.opening? = some c ∧ c ≠ 'c' := by
  cases phrase with
  | bare => exact shaped.not_count
  | keyword spelling gap text meaning known space =>
    obtain ⟨relation, member, _⟩ := (mem_keywordMeanings _ _).mp known
    obtain ⟨c, initial, opens⟩ := opening?_of_keyword member
    rw [List.append_assoc]
    refine ⟨c, Text.opening?_append spelling _ c opens, ?_⟩
    rintro rfl
    exact absurd initial (by decide)

end DatePhrase

structure DateField.Means (field : DateField) (text : Text) (range : DateRange) : Prop where
  single : '\n' ∉ text
  resolves : DateRange.resolve? field.today text = some range

theorem DateField.Means.shaped {field : DateField} {text : Text} {range : DateRange}
    (means : field.Means text range) : text.DateShaped :=
  DateRange.resolve?_dateShaped field.today text range means.resolves

theorem DateField.Means.compile_bare {field : DateField} {text : Text} {range : DateRange}
    (means : field.Means text range) :
    field.compile (field.name ++ " " ++ text) =
      .ok ⟨field.name ++ " " ++ text, field.accepts (.latest .on range),
        (Condition.latest .on range).explain field.name⟩ :=
  field.compile_words text _ means.single means.shaped.not_count means.shaped.not_phrase
    (dateOf?_bare field text range means.resolves)

theorem dateKeywords_single : ∀ entry ∈ dateKeywords, '\n' ∉ entry.1 := by
  simp only [dateKeywords, Text.ofString_eq]
  decide

theorem DateField.Means.compile_keyword {field : DateField} {text : Text} {range : DateRange}
    (means : field.Means text range) (keyword : Text) (relation : DateRelation)
    (known : (keyword, relation) ∈ dateKeywords) :
    field.compile (field.dateLine keyword text) =
      .ok ⟨field.dateLine keyword text, field.accepts (.latest relation range),
        (Condition.latest relation range).explain field.name⟩ := by
  have space : (" " : Text) = [' '] := Text.ofString_eq " "
  have line : field.dateLine keyword text = field.name ++ " " ++ (keyword ++ [' '] ++ text) := by
    simp [dateLine, space]
  have single : '\n' ∉ keyword ++ [' '] ++ text := by
    simp [means.single, dateKeywords_single _ known]
  have member : (keyword.asciiLower, relation) ∈ dateKeywords := by
    rwa [dateKeywords_lower _ known]
  have phrase := DatePhrase.keyword keyword [' '] text relation.Asks
    ((mem_keywordMeanings _ _).mpr ⟨relation, member, rfl⟩) (.inr rfl)
  rw [line]
  apply field.compile_words _ _ single (phrase.not_count means.shaped)
    (phrase.not_phrase means.shaped)
  exact dateOf?_spelled field keyword [' '] text relation range member (.inr rfl) means.resolves

theorem lower_phrases_ne (name : Text) : (datedPhrase name).lower ≠ (undatedPhrase name).lower := by
  intro same
  have first := congrArg List.head? same
  simp [datedPhrase, undatedPhrase, Text.ofString_eq, Text.lower, lowerBehind, lowerOf,
    simpleLower, isAscii] at first

theorem DateField.compile_phrases (field : DateField) :
    field.compile (datedPhrase field.name) = .ok ⟨datedPhrase field.name,
      field.accepts .dated, Condition.dated.explain field.name⟩ ∧
    field.compile (undatedPhrase field.name) = .ok ⟨undatedPhrase field.name,
      field.accepts .undated, Condition.undated.explain field.name⟩ := by
  have apart := lower_phrases_ne field.name
  constructor <;>
    simp [compile, read?, phrase?, phrases, Phrasebook.entry?, Phrasebook.add, apart]

theorem DateRange.exists_resolve? (today : Date) (text : Text)
    (read : (∃ range, DateRange.read? today text = some range) ∨
      ∃ date, Date.read? today text = some date) :
    ∃ range, resolve? today text = some range := by
  unfold resolve?
  cases whole : DateRange.read? today text with
  | some range => exact ⟨range, rfl⟩
  | none =>
    rcases read with ⟨range, found⟩ | ⟨date, found⟩
    · rw [whole] at found
      cases found
    · exact ⟨.single date, by rw [found]; rfl⟩

/-- The lines with `before`, `on` and `after` in front of one text share out the tasks that have a
date, and every other line with that text unites some of the shares. -/
theorem DateField.relations_partition_tasks (field : DateField) (text : Text)
    (single : '\n' ∉ text)
    (read : (∃ range, DateRange.read? field.today text = some range) ∨
      ∃ date, Date.read? field.today text = some date) :
    ∃ before on after undated : Filter,
      field.compile (field.dateLine "before" text) = .ok before ∧
      field.compile (field.dateLine "on" text) = .ok on ∧
      field.compile (field.dateLine "after" text) = .ok after ∧
      field.compile ("no " ++ field.name ++ " date") = .ok undated ∧
      (∀ task : Task, [before, on, after, undated].countP (·.accepts task) = 1) ∧
      (∀ keyword ∈ (["on or before", "in or before"] : List Text),
        field.CompilesTo (field.dateLine keyword text) [before, on]) ∧
      (∀ keyword ∈ (["on or after", "in or after"] : List Text),
        field.CompilesTo (field.dateLine keyword text) [on, after]) ∧
      field.CompilesTo (field.name ++ " " ++ text) [on] ∧
      field.CompilesTo (field.dateLine "in" text) [on] ∧
      field.CompilesTo ("has " ++ field.name ++ " date") [before, on, after] := by
  obtain ⟨range, resolves⟩ := DateRange.exists_resolve? field.today text read
  have means : field.Means text range := ⟨single, resolves⟩
  obtain ⟨dated, undated⟩ := field.compile_phrases
  refine ⟨_, _, _, _, means.compile_keyword "before" .before (by simp [dateKeywords]),
    means.compile_keyword "on" .on (by simp [dateKeywords]),
    means.compile_keyword "after" .after (by simp [dateKeywords]), undated,
    fun task => Condition.partition range (field.dates task) (field.count task), ?_, ?_, ?_, ?_, ?_⟩
  · intro keyword member
    have known : (keyword, DateRelation.onOrBefore) ∈ dateKeywords := by
      simp only [List.mem_cons, List.not_mem_nil, or_false] at member
      rcases member with rfl | rfl <;> simp [dateKeywords]
    exact ⟨_, means.compile_keyword keyword .onOrBefore known,
      fun task => Condition.onOrBefore_accepts range (field.dates task) (field.count task)⟩
  · intro keyword member
    have known : (keyword, DateRelation.onOrAfter) ∈ dateKeywords := by
      simp only [List.mem_cons, List.not_mem_nil, or_false] at member
      rcases member with rfl | rfl <;> simp [dateKeywords]
    exact ⟨_, means.compile_keyword keyword .onOrAfter known,
      fun task => Condition.onOrAfter_accepts range (field.dates task) (field.count task)⟩
  · exact ⟨_, means.compile_bare, fun task => by simp⟩
  · exact ⟨_, means.compile_keyword "in" .on (by simp [dateKeywords]), fun task => by simp⟩
  · exact ⟨_, dated,
      fun task => Condition.dated_accepts range (field.dates task) (field.count task)⟩

theorem marchField_partition_midMarch :
    '\n' ∉ ("2024-03-20 to 2024-03-10" : Text) ∧
      DateRange.read? marchField.today "2024-03-20 to 2024-03-10" =
        some ⟨⟨2024, 3, 10, by decide⟩, ⟨2024, 3, 20, by decide⟩, by decide⟩ ∧
      ∃ before on after undated : Filter,
        marchField.compile "top3 before 2024-03-20 to 2024-03-10" = .ok before ∧
        marchField.compile "top3 on 2024-03-20 to 2024-03-10" = .ok on ∧
        marchField.compile "top3 after 2024-03-20 to 2024-03-10" = .ok after ∧
        marchField.compile "no top3 date" = .ok undated ∧
        ∀ task : Task, [before, on, after, undated].countP (·.accepts task) = 1 := by
  have single : '\n' ∉ ("2024-03-20 to 2024-03-10" : Text) := by
    rw [Text.ofString_eq]
    decide
  have read : DateRange.read? marchField.today "2024-03-20 to 2024-03-10" =
      some ⟨⟨2024, 3, 10, by decide⟩, ⟨2024, 3, 20, by decide⟩, by decide⟩ := by
    with_unfolding_all rfl
  have lines : marchField.dateLine "before" "2024-03-20 to 2024-03-10" =
        "top3 before 2024-03-20 to 2024-03-10" ∧
      marchField.dateLine "on" "2024-03-20 to 2024-03-10" =
        "top3 on 2024-03-20 to 2024-03-10" ∧
      marchField.dateLine "after" "2024-03-20 to 2024-03-10" =
        "top3 after 2024-03-20 to 2024-03-10" ∧
      Text.ofString "no " ++ marchField.name ++ Text.ofString " date" = "no top3 date" := by
    simp [DateField.dateLine, marchField, DateField.top3, Text.ofString_eq]
  obtain ⟨before, on, after, undated, first, second, third, fourth, partition, _⟩ :=
    marchField.relations_partition_tasks "2024-03-20 to 2024-03-10" single (.inl ⟨_, read⟩)
  rw [lines.1] at first
  rw [lines.2.1] at second
  rw [lines.2.2.1] at third
  rw [lines.2.2.2] at fourth
  exact ⟨single, read, before, on, after, undated, first, second, third, fourth, partition⟩

end TaskQuery
