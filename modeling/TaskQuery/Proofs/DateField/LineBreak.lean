import TaskQuery.Proofs.DateField.Explanation

set_option autoImplicit false

namespace TaskQuery

theorem DateRange.resolve?_append_gap (today : Date) (text : Text) {gap : Text}
    (blank : gap.all isBlank = true) : resolve? today (text ++ gap) = resolve? today text := by
  simp only [resolve?, DateRange.read?, Date.read?, Text.trim_append_gap text blank]

theorem DateRelation.asks_inj {relation other : DateRelation} (same : relation.Asks = other.Asks) :
    relation = other := by
  let range : DateRange := ⟨⟨2024, 3, 10, by decide⟩, ⟨2024, 3, 20, by decide⟩, by decide⟩
  have alike (date : Date) : relation.holds date range = other.holds date range := by
    rw [Bool.eq_iff_iff, holds_iff, holds_iff, same]
  have early := alike ⟨2024, 3, 9, by decide⟩
  have inside := alike ⟨2024, 3, 15, by decide⟩
  have late := alike ⟨2024, 3, 21, by decide⟩
  revert early inside late
  cases relation <;> cases other <;> decide

theorem DatePhrase.suffix {words text : Text} {meaning : DateRange → Date → Prop}
    (phrase : DatePhrase words text meaning) : text <:+ words := by
  cases phrase with
  | bare => exact List.suffix_rfl
  | keyword spelling gap => exact List.suffix_append _ _

namespace DateField

/-- The parts of a line about dates: the name in any case, a space, the words up to the next line
break, in which a keyword may stand before a text, and a tail that starts with that break. -/
inductive Parts (field : DateField) : Text → DateRelation → Text → Text → Prop where
  | spelled (name words text tail : Text) (relation : DateRelation)
    (named : name.map foldCase = field.name.map foldCase)
    (phrase : DatePhrase words text relation.Asks) (single : '\n' ∉ words)
    (ends : ∀ c ∈ tail.head?, c = '\n') :
    Parts field (name ++ ' ' :: (words ++ tail)) relation text tail

variable {field : DateField} {line : Text}

theorem exists_break (rest : Text) : ∃ words tail, rest = words ++ tail ∧ '\n' ∉ words ∧
    ∀ c ∈ tail.head?, c = '\n' := by
  refine ⟨rest.takeWhile (· ≠ '\n'), rest.dropWhile (· ≠ '\n'), ?_, ?_, ?_⟩
  · exact List.takeWhile_append_dropWhile.symm
  · intro member
    simpa using List.mem_takeWhile_imp member
  · intro c first
    have stop := List.head?_dropWhile_not (fun c => decide (c ≠ '\n')) rest
    rw [Option.mem_def.mp first] at stop
    simpa using stop

theorem takeWhile_to_break {words tail : Text} (single : '\n' ∉ words)
    (ends : ∀ c ∈ tail.head?, c = '\n') : (words ++ tail).takeWhile (· ≠ '\n') = words := by
  have inside : ∀ c ∈ words, decide (c ≠ '\n') = true := by
    intro c member
    simp only [ne_eq, decide_eq_true_eq]
    rintro rfl
    exact single member
  have stop : tail.takeWhile (· ≠ '\n') = [] := by
    cases tail with
    | nil => rfl
    | cons c tail => simp [ends c rfl]
  rw [List.takeWhile_append_of_pos inside, stop, List.append_nil]

theorem date?_to_break {words tail : Text} (names : field.Names line (words ++ tail))
    (single : '\n' ∉ words) (ends : ∀ c ∈ tail.head?, c = '\n') :
    field.date? line = some (match field.dateOf? words with
      | some condition => .ok condition
      | none => .error (.badDate field.name)) := by
  rw [← field.names_iff] at names
  simp only [date?, names, Option.bind_eq_bind, Option.bind_some, takeWhile_to_break single ends]
  cases field.dateOf? words <;> rfl

theorem date?_eq_ok_iff (condition : Condition) :
    field.date? line = some (.ok condition) ↔ ∃ relation text tail range,
      field.Parts line relation text tail ∧
        DateRange.resolve? field.today text = some range ∧ condition = .latest relation range := by
  constructor
  · intro dated
    obtain ⟨rest, stripped, _⟩ := Option.bind_eq_some_iff.mp dated
    obtain ⟨words, tail, rfl, single, ends⟩ := exists_break rest
    have names := (field.names_iff line _).mp stripped
    rw [date?_to_break names single ends] at dated
    obtain ⟨name, rfl, named⟩ := names
    cases read : field.dateOf? words with
    | none => simp [read] at dated
    | some found =>
      obtain ⟨text, meaning, range, phrase, resolved⟩ :=
        DatePhrase.of_dateOf? field words found read
      obtain ⟨relation, read', rfl⟩ := phrase.dateOf? field resolved
      refine ⟨relation, text, tail, range, .spelled name words text tail relation named phrase
        single ends, resolved, ?_⟩
      rw [read'] at dated
      cases dated
      rfl
  · rintro ⟨relation, text, tail, range, parts, resolved, rfl⟩
    cases parts with
    | spelled name words text tail relation named phrase single ends =>
      obtain ⟨asked, read, same⟩ := phrase.dateOf? field resolved
      rw [date?_to_break ⟨name, rfl, named⟩ single ends, read, DateRelation.asks_inj same]

theorem read?_eq_date? (noPhrase : field.phrase? line = none) (noCount : field.count? line = none) :
    field.read? line = field.date? line := by
  simp [DateField.read?, noPhrase, noCount]

theorem Parts.suffix {relation : DateRelation} {text tail : Text}
    (parts : field.Parts line relation text tail) : text ++ tail <:+ line := by
  cases parts with
  | spelled name words text tail relation named phrase single ends =>
    obtain ⟨front, rfl⟩ := phrase.suffix
    exact ⟨name ++ ' ' :: front, by simp⟩

/-- A line about dates is read up to a line break behind its name. What stands before the break
decides alone whether the line makes a filter and for which range; where nothing visible stands
behind the break, that is the range of the whole text to the end of the line. -/
theorem date_line_read_to_break (field : DateField) (line : Text)
    (noPhrase : field.phrase? line = none) (noCount : field.count? line = none) :
    (∀ filter, field.compile line = .ok filter ↔ ∃ relation text tail range,
      field.Parts line relation text tail ∧ DateRange.resolve? field.today text = some range ∧
        filter = ⟨line, field.accepts (.latest relation range),
          (Condition.latest relation range).explain field.name⟩) ∧
    (∀ relation text tail range, field.Parts line relation text tail →
      DateRange.resolve? field.today text = some range → tail.all isBlank = true →
        text ++ tail <:+ line ∧ DateRange.resolve? field.today (text ++ tail) = some range) ∧
    ∀ rest, field.Names line rest →
      (¬ ∃ relation text tail range, field.Parts line relation text tail ∧
        DateRange.resolve? field.today text = some range) →
      ∃ error, field.compile line = .error error ∧ error.line = line ∧
        error.problem.message = "do not understand " ++ field.name ++ " date" := by
  have read := read?_eq_date? noPhrase noCount
  refine ⟨?_, ?_, ?_⟩
  · intro filter
    rw [compile_eq_ok_iff, read]
    constructor
    · rintro ⟨condition, dated, rfl⟩
      obtain ⟨relation, text, tail, range, parts, resolved, rfl⟩ :=
        (date?_eq_ok_iff condition).mp dated
      exact ⟨relation, text, tail, range, parts, resolved, rfl⟩
    · rintro ⟨relation, text, tail, range, parts, resolved, rfl⟩
      exact ⟨.latest relation range, (date?_eq_ok_iff _).mpr
        ⟨relation, text, tail, range, parts, resolved, rfl⟩, rfl⟩
  · intro relation text tail range parts resolved blank
    exact ⟨parts.suffix, by rw [DateRange.resolve?_append_gap _ text blank, resolved]⟩
  · intro rest names refused
    obtain ⟨words, tail, rfl, single, ends⟩ := exists_break rest
    have dated := date?_to_break names single ends
    cases means : field.dateOf? words with
    | none =>
      rw [means] at dated
      rw [compile, read, dated]
      exact ⟨_, rfl, rfl, rfl⟩
    | some condition =>
      rw [means] at dated
      obtain ⟨relation, text, tail, range, parts, resolved, _⟩ :=
        (date?_eq_ok_iff condition).mp dated
      exact absurd ⟨relation, text, tail, range, parts, resolved⟩ refused

end DateField

def priorYear : DateRange :=
  ⟨⟨2023, 1, 1, by decide⟩, ⟨2023, 12, 31, by decide⟩, by decide⟩

theorem marchField_reads_after_last_year :
    marchField.phrase? "Top3 AFTERlast Year\n\t" = none ∧
      marchField.count? "Top3 AFTERlast Year\n\t" = none ∧
      marchField.Parts "Top3 AFTERlast Year\n\t" .after "last Year" "\n\t" ∧
      ("\n\t" : Text).all isBlank = true ∧
      DateRange.resolve? marchField.today "last Year" = some priorYear ∧
      DateRange.resolve? marchField.today ("last Year" ++ "\n\t") = some priorYear ∧
      ∃ filter, marchField.compile "Top3 AFTERlast Year\n\t" = .ok filter ∧
        filter.accepts = marchField.accepts (.latest .after priorYear) := by
  have noPhrase : marchField.phrase? "Top3 AFTERlast Year\n\t" = none := by
    with_unfolding_all rfl
  have noCount : marchField.count? "Top3 AFTERlast Year\n\t" = none := by
    with_unfolding_all rfl
  have parts : marchField.Parts "Top3 AFTERlast Year\n\t" .after "last Year" "\n\t" := by
    have shape : ("Top3 AFTERlast Year\n\t" : Text) =
        Text.ofString "Top3" ++ ' ' :: (Text.ofString "AFTER" ++ [] ++ Text.ofString "last Year" ++
          Text.ofString "\n\t") := by
      simp [Text.ofString_eq]
    have keyword : (Text.asciiLower "AFTER", DateRelation.after) ∈ dateKeywords := by
      simp [dateKeywords, Text.asciiLower, Text.ofString_eq]
    rw [shape]
    refine .spelled _ _ _ _ .after ?_
      (.keyword _ _ _ _ ((mem_keywordMeanings _ _).mpr ⟨.after, keyword, rfl⟩) (.inl rfl)) ?_ ?_
    · with_unfolding_all rfl
    · simp [Text.ofString_eq]
    · simp [Text.ofString_eq]
  have blank : ("\n\t" : Text).all isBlank = true := by
    with_unfolding_all rfl
  have resolved : DateRange.resolve? marchField.today "last Year" = some priorYear := by
    with_unfolding_all rfl
  obtain ⟨accepted, whole, _⟩ := marchField.date_line_read_to_break _ noPhrase noCount
  have compiled := (accepted _).mpr ⟨.after, _, _, priorYear, parts, resolved, rfl⟩
  exact ⟨noPhrase, noCount, parts, blank, resolved, (whole _ _ _ _ parts resolved blank).2, _,
    compiled, rfl⟩

theorem marchField_ignores_behind_break :
    ∃ filter tail, marchField.compile "top3 on 2024-02-10\nor not" = .ok filter ∧
      marchField.Parts "top3 on 2024-02-10\nor not" .on "2024-02-10" tail ∧
      DateRange.resolve? marchField.today ("2024-02-10" ++ tail) = none := by
  refine ⟨_, "\nor not", by with_unfolding_all rfl, ?_, by with_unfolding_all rfl⟩
  have shape : ("top3 on 2024-02-10\nor not" : Text) =
      Text.ofString "top3" ++ ' ' :: (Text.ofString "on" ++ [' '] ++ Text.ofString "2024-02-10" ++
        Text.ofString "\nor not") := by
    simp [Text.ofString_eq]
  have keyword : (Text.asciiLower "on", DateRelation.on) ∈ dateKeywords := by
    simp [dateKeywords, Text.asciiLower, Text.ofString_eq]
  rw [shape]
  refine .spelled _ _ _ _ .on rfl
    (.keyword _ _ _ _ ((mem_keywordMeanings _ _).mpr ⟨.on, keyword, rfl⟩) (.inr rfl)) ?_ ?_
  · simp [Text.ofString_eq]
  · simp [Text.ofString_eq]

end TaskQuery
