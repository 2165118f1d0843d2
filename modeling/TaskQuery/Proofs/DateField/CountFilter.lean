import TaskQuery.Proofs.Calendar.Spelling
import TaskQuery.Proofs.DateField.CountGrammar

set_option autoImplicit false

namespace TaskQuery

def countMeanings : List (Text × (Nat → Nat → Prop)) :=
  [(">", fun count bound => bound < count), (">=", fun count bound => bound ≤ count),
    ("<", fun count bound => count < bound), ("<=", fun count bound => count ≤ bound),
    ("=", fun count bound => count = bound), ("is", fun count bound => count = bound)]

/-- The shape of a line that compares the count with a number: the name and `count` in any case, an
operator in letters of either case with or without blanks around it, and the digits of the number. -/
inductive DateField.Compares (field : DateField) : Text → (Nat → Nat → Prop) → Text → Prop where
  | spelled (words before operator after digits : Text) (meaning : Nat → Nat → Prop)
    (named : words.map foldCase = (field.name ++ " count").map foldCase)
    (gap : before.all isBlank = true) (known : (operator.asciiLower, meaning) ∈ countMeanings)
    (space : after.all isBlank = true) (number : digits.isNumber = true) :
    Compares field (words ++ before ++ operator ++ after ++ digits) meaning digits

theorem foldCase_of_toLower (c : Char) (ascii : isAscii c.toLower = true) :
    foldCase c = c.toLower :=
  (foldCase_eq_iff c c.toLower ascii).mpr (.inl rfl)

theorem countSigns_lookup : ∀ entry ∈ countSigns,
    countSigns.lookup entry.1 = some entry.2 ∧ entry.1.all isAscii = true := by
  simp only [countSigns, Text.ofString_eq]
  decide

theorem map_foldCase_of_sign {sign : Text} {relation : CountRelation}
    (known : (sign.asciiLower, relation) ∈ countSigns) : sign.map foldCase = sign.asciiLower := by
  have ascii := (countSigns_lookup _ known).2
  rw [List.all_eq_true] at ascii
  exact List.map_congr_left fun c member =>
    foldCase_of_toLower c (ascii c.toLower (List.mem_map_of_mem member))

theorem exists_sign_of_meaning {word : Text} {meaning : Nat → Nat → Prop}
    (known : (word, meaning) ∈ countMeanings) :
    ∃ relation, (word, relation) ∈ countSigns ∧
      ∀ count bound, relation.holds count bound = true ↔ meaning count bound := by
  simp only [countMeanings, List.mem_cons, Prod.mk.injEq, List.not_mem_nil, or_false] at known
  rcases known with ⟨rfl, rfl⟩ | ⟨rfl, rfl⟩ | ⟨rfl, rfl⟩ | ⟨rfl, rfl⟩ | ⟨rfl, rfl⟩ | ⟨rfl, rfl⟩
  · exact ⟨.more, by simp [countSigns], by simp [CountRelation.holds]⟩
  · exact ⟨.atLeast, by simp [countSigns], by simp [CountRelation.holds]⟩
  · exact ⟨.less, by simp [countSigns], by simp [CountRelation.holds]⟩
  · exact ⟨.atMost, by simp [countSigns], by simp [CountRelation.holds]⟩
  · exact ⟨.exactly, by simp [countSigns], by simp [CountRelation.holds]⟩
  · exact ⟨.exactly, by simp [countSigns], by simp [CountRelation.holds]⟩

theorem isDecimalDigit_of_isDigit (c : Char) (digit : c.isDigit = true) :
    isDecimalDigit c = true := by
  simp only [Char.isDigit, Bool.and_eq_true, decide_eq_true_eq] at digit
  rw [isDecimalDigit, CodeRanges.has_iff]
  exact ⟨(0x30, 0x39), List.mem_cons_self, digit⟩

theorem decimal_of_isNumber {digits : Text} (number : digits.isNumber = true) :
    digits ≠ [] ∧ digits.all isDecimalDigit = true := by
  simp only [Text.isNumber, Bool.and_eq_true, decide_eq_true_eq, List.all_eq_true] at number
  rw [List.all_eq_true]
  exact ⟨number.1, fun c member => isDecimalDigit_of_isDigit c (number.2 c member)⟩

namespace DateField

variable {field : DateField} {line sign digits : Text}

theorem compile_of_countLine (counted : field.CountLine line sign digits) :
    field.compile line = match field.countOf sign digits with
      | .ok condition => .ok ⟨line, field.accepts condition, condition.explain field.name⟩
      | .error problem => .error ⟨line, problem⟩ := by
  rw [compile, counted.read?]
  cases field.countOf sign digits <;> rfl

theorem Compares.countOf {meaning : Nat → Nat → Prop}
    (compares : field.Compares line meaning digits) :
    ∃ sign relation, field.CountLine line sign digits ∧
      (∀ count bound, CountRelation.holds relation count bound = true ↔ meaning count bound) ∧
      field.countOf sign digits = if digits.value < UInt64.size then
        .ok (.count relation digits.value) else .error (.badCount field.name) := by
  cases compares with
  | spelled words before operator after digits meaning named gap known space number =>
    obtain ⟨relation, known, holds⟩ := exists_sign_of_meaning known
    obtain ⟨nonempty, decimal⟩ := decimal_of_isNumber number
    have folded : (operator.map foldCase, relation) ∈ countSigns := by
      rwa [map_foldCase_of_sign known]
    refine ⟨operator, relation, .spelled words before operator after digits relation named gap folded
      space nonempty decimal, holds, ?_⟩
    have read : CountRelation.ofSign? operator = some relation := (countSigns_lookup _ known).1
    by_cases small : digits.value < UInt64.size <;>
      simp [DateField.countOf, countOf?, read, number, small]

/-- A line that compares the count makes a filter for the tasks whose stored count stands in the
relation, if the number is one of 64 bits. A greater number is an error and never another number. -/
theorem count_filter_exact (field : DateField) (line digits : Text) (meaning : Nat → Nat → Prop)
    (compares : field.Compares line meaning digits) :
    (digits.value < UInt64.size →
      ∃ filter, field.compile line = .ok filter ∧ filter.line = line ∧
        ∀ task : Task, filter.accepts task = true ↔ meaning (field.count task) digits.value) ∧
    (UInt64.size ≤ digits.value →
      ∃ error, field.compile line = .error error ∧ error.line = line ∧
        error.problem.message = "do not understand " ++ field.name ++ " count") := by
  obtain ⟨sign, relation, counted, holds, outcome⟩ := compares.countOf
  have compiled := compile_of_countLine counted
  rw [outcome] at compiled
  constructor
  · intro small
    rw [if_pos small] at compiled
    exact ⟨_, compiled, rfl, fun task => holds (field.count task) digits.value⟩
  · intro large
    rw [if_neg (Nat.not_lt.mpr large)] at compiled
    exact ⟨_, compiled, rfl, rfl⟩

end DateField

theorem marchField_counts_past_zeros :
    marchField.Compares "Top3 COUNT\t<=0018446744073709551615" (fun count bound => count ≤ bound)
        "0018446744073709551615" ∧
      (Text.value "0018446744073709551615") < UInt64.size ∧
      ∃ filter, marchField.compile "Top3 COUNT\t<=0018446744073709551615" = .ok filter ∧
        ∀ task : Task, filter.accepts task = true ↔ task.count ≤ 18446744073709551615 := by
  have shape : ("Top3 COUNT\t<=0018446744073709551615" : Text) =
      Text.ofString "Top3 COUNT" ++ Text.ofString "\t" ++ Text.ofString "<=" ++ [] ++
        Text.ofString "0018446744073709551615" := by
    simp [Text.ofString_eq]
  have compares : marchField.Compares "Top3 COUNT\t<=0018446744073709551615"
      (fun count bound => count ≤ bound) "0018446744073709551615" := by
    rw [shape]
    refine .spelled _ _ _ _ _ _ ?_ ?_ ?_ rfl ?_
    · with_unfolding_all rfl
    · with_unfolding_all rfl
    · simp [countMeanings, Text.asciiLower, Text.ofString_eq]
    · with_unfolding_all rfl
  have value : Text.value "0018446744073709551615" = 18446744073709551615 := by
    with_unfolding_all rfl
  have small : Text.value "0018446744073709551615" < UInt64.size := by
    rw [value]
    decide
  obtain ⟨accepted, _⟩ := marchField.count_filter_exact _ _ _ compares
  obtain ⟨filter, compiled, _, accepts⟩ := accepted small
  rw [value] at accepts
  exact ⟨compares, small, filter, compiled, accepts⟩

-- The long s is an s for the grammar of a count line, but not for the table of its operators.
def longSigns : List Text := ["i\u017F", "I\u017F"]

theorem countSigns_plain_or_is : ∀ entry ∈ countSigns,
    entry.1.Plain ∨ entry.1 = ['i', 's'] := by
  simp only [countSigns, Text.ofString_eq]
  decide

theorem asciiLower_or_longSign {sign : Text} {relation : CountRelation}
    (known : (sign.map foldCase, relation) ∈ countSigns) :
    (sign.asciiLower, relation) ∈ countSigns ∨ sign ∈ longSigns := by
  have folded := (countSigns_plain _ known).1
  rcases countSigns_plain_or_is _ known with plain | letters
  · have lower := (Text.foldCase_spelling _ sign plain).mp folded.symm
    rw [lower]
    exact .inl known
  · obtain ⟨a, behind, rfl, first, tail⟩ := List.map_eq_cons_iff.mp letters
    obtain ⟨b, _, rfl, second, rest⟩ := List.map_eq_cons_iff.mp tail
    obtain rfl := List.map_eq_nil_iff.mp rest
    rw [foldCase_eq_iff a 'i' (by decide)] at first
    rw [foldCase_eq_iff b 's' (by decide)] at second
    have i : a.toLower = 'i' := by simpa using first
    rcases second with s | ⟨rfl, _⟩ | ⟨_, impossible⟩
    · left
      dsimp only at letters
      rw [letters] at known
      simpa [Text.asciiLower, i, s] using known
    · right
      rcases eq_toUpper_or_eq_toLower a with capital | small
      · rw [capital, i]
        simp [longSigns, Text.ofString_eq]
      · rw [small, i]
        simp [longSigns, Text.ofString_eq]
    · cases impossible

theorem ofSign?_eq_none_iff {sign : Text} {relation : CountRelation}
    (known : (sign.map foldCase, relation) ∈ countSigns) :
    CountRelation.ofSign? sign = none ↔ sign ∈ longSigns := by
  have unknown : ∀ sign ∈ longSigns, CountRelation.ofSign? sign = none := by
    simp only [longSigns, CountRelation.ofSign?, countSigns, Text.ofString_eq]
    decide
  constructor
  · intro missing
    rcases asciiLower_or_longSign known with lower | long
    · rw [CountRelation.ofSign?, (countSigns_lookup _ lower).1] at missing
      cases missing
    · exact long
  · exact unknown sign

namespace DateField

variable {field : DateField} {line sign digits : Text}

theorem CountLine.ofSign? (counted : field.CountLine line sign digits) :
    CountRelation.ofSign? sign = none ↔ sign ∈ longSigns := by
  cases counted with
  | spelled words before sign after digits relation named gap known space nonempty decimal =>
    exact ofSign?_eq_none_iff known

theorem unknownOperator_of_message {problem : Problem}
    (failed : field.read? line = some (.error problem))
    (opens : Text.ofString "Unknown operator" <+: problem.message) :
    ∃ sign digits, field.CountLine line sign digits ∧ CountRelation.ofSign? sign = none := by
  rcases Option.or_eq_some_iff.mp failed with phrase | ⟨_, failed⟩
  · simp at phrase
  rcases Option.or_eq_some_iff.mp failed with claimed | ⟨_, dated⟩
  · obtain ⟨sign, digits, counted, failed⟩ := (field.count?_eq_some_iff line _).mp claimed
    refine ⟨sign, digits, counted, ?_⟩
    unfold countOf at failed
    split at failed
    next missing => exact missing
    next =>
      split at failed <;> cases failed
      simp [Problem.message, Text.ofString_eq] at opens
  · obtain ⟨rest, _, read⟩ := Option.bind_eq_some_iff.mp dated
    split at read <;> cases read
    simp [Problem.message, Text.ofString_eq] at opens

/-- A line is refused for its operator exactly when that is `is` with a long s: the grammar passes
no other text that the operators lack. -/
theorem unknown_operator_exact (field : DateField) (line : Text) :
    ((∃ error, field.compile line = .error error ∧
        Text.ofString "Unknown operator" <+: error.problem.message) ↔
      ∃ sign digits, field.CountLine line sign digits ∧ sign ∈ longSigns) ∧
    ∀ sign digits, field.CountLine line sign digits →
      (CountRelation.ofSign? sign = none ↔ sign ∈ longSigns) ∧
      (sign ∈ longSigns → field.compile line = .error ⟨line, .unknownOperator sign⟩) := by
  have refused : ∀ sign digits, field.CountLine line sign digits → sign ∈ longSigns →
      field.compile line = .error ⟨line, .unknownOperator sign⟩ := by
    intro sign digits counted long
    have unknown := counted.ofSign?.mpr long
    rw [compile_of_countLine counted]
    simp [countOf, unknown]
  refine ⟨?_, fun sign digits counted => ⟨counted.ofSign?, refused sign digits counted⟩⟩
  constructor
  · intro ⟨error, failed, opens⟩
    unfold compile at failed
    split at failed
    next =>
      cases failed
      simp [Problem.message, Text.ofString_eq] at opens
    next problem read =>
      cases failed
      obtain ⟨sign, digits, counted, unknown⟩ := unknownOperator_of_message read opens
      exact ⟨sign, digits, counted, counted.ofSign?.mp unknown⟩
    next => cases failed
  · intro ⟨sign, digits, counted, long⟩
    refine ⟨_, refused sign digits counted long, ?_⟩
    simp [Problem.message, Text.ofString_eq]

end DateField

theorem marchField_refuses_long_s :
    ∃ error, marchField.compile "top3 count i\u017F 2" = .error error ∧
      Text.ofString "Unknown operator" <+: error.problem.message := by
  refine ⟨⟨"top3 count i\u017F 2", .unknownOperator "i\u017F"⟩, ?_, ?_⟩
  · with_unfolding_all rfl
  · simp [Problem.message, Text.ofString_eq]

theorem marchField_refuses_capital_long_s :
    marchField.CountLine "Top3 COUNT I\u017F5" "I\u017F" "5" ∧ Text.ofString "I\u017F" ∈ longSigns ∧
      marchField.compile "Top3 COUNT I\u017F5" =
        .error ⟨"Top3 COUNT I\u017F5", .unknownOperator "I\u017F"⟩ := by
  have counted : marchField.CountLine "Top3 COUNT I\u017F5" "I\u017F" "5" := by
    have shape : ("Top3 COUNT I\u017F5" : Text) =
        Text.ofString "Top3 COUNT" ++ Text.ofString " " ++ Text.ofString "I\u017F" ++ [] ++
          Text.ofString "5" := by
      simp [Text.ofString_eq]
    have folded : (Text.ofString "I\u017F").map foldCase = "is" := by
      with_unfolding_all rfl
    rw [shape]
    refine .spelled _ _ _ _ _ .exactly ?_ ?_ ?_ rfl ?_ ?_
    · with_unfolding_all rfl
    · with_unfolding_all rfl
    · simp [countSigns, folded]
    · simp [Text.ofString_eq]
    · with_unfolding_all rfl
  have long : Text.ofString "I\u017F" ∈ longSigns := by
    simp [longSigns]
  obtain ⟨_, operators⟩ := marchField.unknown_operator_exact "Top3 COUNT I\u017F5"
  exact ⟨counted, long, (operators _ _ counted).2 long⟩

end TaskQuery
