import TaskQuery.Proofs.DateField.Grammars
import TaskQuery.Proofs.Query.Document

set_option autoImplicit false

namespace TaskQuery

structure Directive.RoutesTo (fields : List Field) (line : Text) (field : Field) : Prop where
  unreserved : reserved? fields line.lower = none
  asked : fields.find? (·.recognizes line) = some field

theorem Directive.RoutesTo.read {fields : List Field} {line : Text} {field : Field}
    (routes : RoutesTo fields line field) :
    Directive.read fields line = (field.compile line).map Directive.filter := by
  unfold Directive.read readFilter
  rw [routes.unreserved, routes.asked]

namespace DateField

inductive ValueMessage (field : DateField) (line : Text) : Text → Prop where
  | sign (sign digits : Text) (counted : field.CountLine line sign digits) :
    ValueMessage field line ("Unknown operator: " ++ sign)
  | count (sign digits : Text) (counted : field.CountLine line sign digits) :
    ValueMessage field line ("do not understand " ++ field.name ++ " count")
  | date (rest : Text) (names : field.Names line rest)
    (uncounted : ∀ sign digits, ¬ field.CountLine line sign digits) :
    ValueMessage field line ("do not understand " ++ field.name ++ " date")

variable (field : DateField) (line : Text)

theorem ValueMessage.ne_notAbout {message : Text} (value : field.ValueMessage line message) :
    message ≠ (Problem.notAbout field.name).message := by
  intro same
  -- The message for a line that is not about the field is longer than those for its values.
  cases value with
  | sign sign digits counted =>
    have first := congrArg List.head? same
    simp [Problem.message, Text.ofString_eq] at first
  | count =>
    have length := congrArg List.length same
    simp [Problem.message, Text.ofString_eq] at length
  | date =>
    have length := congrArg List.length same
    simp [Problem.message, Text.ofString_eq] at length

theorem countOf_error {sign digits : Text} {problem : Problem}
    (failed : field.countOf sign digits = .error problem) :
    problem = .unknownOperator sign ∨ problem = .badCount field.name := by
  unfold countOf at failed
  split at failed
  next =>
    cases failed
    exact .inl rfl
  next =>
    split at failed <;> cases failed
    exact .inr rfl

theorem valueMessage_of_read? {problem : Problem}
    (failed : field.read? line = some (.error problem)) :
    field.ValueMessage line problem.message := by
  rcases Option.or_eq_some_iff.mp failed with phrase | ⟨_, failed⟩
  · simp at phrase
  rcases Option.or_eq_some_iff.mp failed with claimed | ⟨uncounted, dated⟩
  · obtain ⟨sign, digits, counted, failed⟩ := (field.count?_eq_some_iff line _).mp claimed
    rcases field.countOf_error failed with rfl | rfl
    · exact .sign sign digits counted
    · exact .count sign digits counted
  · obtain ⟨rest, stripped, read⟩ := Option.bind_eq_some_iff.mp dated
    have refused : problem = .badDate field.name := by
      split at read <;> cases read
      rfl
    subst refused
    refine .date rest ((field.names_iff line rest).mp stripped) ?_
    intro sign digits counted
    have claimed := (field.count?_eq_some_iff line _).mpr ⟨sign, digits, counted, rfl⟩
    rw [uncounted] at claimed
    cases claimed

theorem compile_unrecognized (foreign : field.recognizes line = false) :
    field.compile line = .error ⟨line, .notAbout field.name⟩ := by
  rw [recognizes_eq, Option.isSome_eq_false_iff, Option.isNone_iff_eq_none] at foreign
  rw [compile, foreign]

theorem compile_recognized (known : field.recognizes line = true) :
    (∃ filter, field.compile line = .ok filter) ∨
      ∃ error, field.compile line = .error error ∧ error.line = line ∧
        field.ValueMessage line error.problem.message := by
  rw [recognizes_eq, Option.isSome_iff_exists] at known
  obtain ⟨outcome, read⟩ := known
  rw [compile, read]
  cases outcome with
  | ok condition => exact .inl ⟨_, rfl⟩
  | error problem => exact .inr ⟨_, rfl, rfl, field.valueMessage_of_read? line read⟩

theorem recognizes_eq_false_iff : field.recognizes line = false ↔
    ∃ error, field.compile line = .error error ∧ error.line = line ∧
      error.problem.message = (Problem.notAbout field.name).message := by
  constructor
  · intro foreign
    exact ⟨_, field.compile_unrecognized line foreign, rfl, rfl⟩
  · intro ⟨error, failed, _, message⟩
    rw [← Bool.not_eq_true]
    intro known
    rcases field.compile_recognized line known with ⟨filter, compiled⟩ | ⟨other, same, _, value⟩
    · rw [compiled] at failed
      cases failed
    · rw [same] at failed
      cases failed
      exact value.ne_notAbout field line message

theorem read_routed (fields : List Field) (routes : Directive.RoutesTo fields line field.field) :
    (∃ filter, field.compile line = .ok filter ∧
      Directive.read fields line = .ok (.filter filter)) ∨
    ∃ error, field.compile line = .error error ∧ Directive.read fields line = .error error ∧
      error.line = line ∧ field.ValueMessage line error.problem.message := by
  have known : field.recognizes line = true := by
    simpa [DateField.field] using List.find?_some routes.asked
  have read : Directive.read fields line = (field.compile line).map Directive.filter := routes.read
  rcases field.compile_recognized line known with ⟨filter, compiled⟩ | ⟨error, failed, rest⟩
  · rw [compiled] at read
    exact .inl ⟨filter, compiled, read⟩
  · rw [failed] at read
    exact .inr ⟨error, failed, read, rest⟩

theorem compile_count {sign digits : Text} (counted : field.CountLine line sign digits) :
    field.compile line = field.compileBy [field.count?] line := by
  have claimed := (field.count?_eq_some_iff line _).mpr ⟨sign, digits, counted, rfl⟩
  cases outcome : field.countOf sign digits <;>
    simp [compile, compileBy, counted.read?, claimed, outcome]

/-- A field recognizes the lines that it does not call foreign. It compiles a line that is routed to
it, or says which value it cannot read, and a line about a count never passes for one about a
date. -/
theorem compiles_what_it_recognizes (field : DateField) (line : Text) :
    (field.recognizes line = false ↔ ∃ error, field.compile line = .error error ∧
      error.line = line ∧
      error.problem.message = "do not understand query filter (" ++ field.name ++ " date)") ∧
    (field.recognizes line = true ↔ line.lower = (datedPhrase field.name).lower ∨
      line.lower = (undatedPhrase field.name).lower ∨ ∃ rest, field.Names line rest) ∧
    (∀ fields, Directive.RoutesTo fields line field.field →
      (∃ filter, field.compile line = .ok filter ∧
        Directive.read fields line = .ok (.filter filter)) ∨
      ∃ error, field.compile line = .error error ∧ Directive.read fields line = .error error ∧
        error.line = line ∧ field.ValueMessage line error.problem.message) ∧
    ((field.count? line).isSome = true ↔ ∃ sign digits, field.CountLine line sign digits) ∧
    ∀ sign digits, field.CountLine line sign digits →
      field.compile line = field.compileBy [field.count?] line ∧
      ∀ problem, field.countOf sign digits = .error problem →
        field.compile line = .error ⟨line, problem⟩ := by
  refine ⟨field.recognizes_eq_false_iff line, field.recognizes_iff line, field.read_routed line,
    field.count?_isSome line, ?_⟩
  intro sign digits counted
  have alone := field.compile_count line counted
  refine ⟨alone, ?_⟩
  intro problem failed
  have claimed := (field.count?_eq_some_iff line _).mpr ⟨sign, digits, counted, failed⟩
  rw [alone, compileBy, Grammar.first?_alone, claimed]

end DateField

theorem hasField_refuses_count :
    Directive.RoutesTo [hasField.field] "Has COUNT is \u0663" hasField.field ∧
      hasField.CountLine "Has COUNT is \u0663" "is" "\u0663" ∧
      hasField.compile "Has COUNT is \u0663" =
        .error ⟨"Has COUNT is \u0663", .badCount "has"⟩ ∧
      ∃ error, Directive.read [hasField.field] "Has COUNT is \u0663" = .error error ∧
        hasField.ValueMessage "Has COUNT is \u0663" error.problem.message := by
  obtain ⟨_, _, routed, _, counts⟩ :=
    hasField.compiles_what_it_recognizes "Has COUNT is \u0663"
  have routes : Directive.RoutesTo [hasField.field] "Has COUNT is \u0663" hasField.field :=
    ⟨by with_unfolding_all rfl, by with_unfolding_all rfl⟩
  have counted : hasField.CountLine "Has COUNT is \u0663" "is" "\u0663" := by
    have shape : ("Has COUNT is \u0663" : Text) =
        Text.ofString "Has COUNT" ++ Text.ofString " " ++ Text.ofString "is" ++
          Text.ofString " " ++ Text.ofString "\u0663" := by
      simp [Text.ofString_eq]
    rw [shape]
    refine .spelled _ _ _ _ _ .exactly ?_ ?_ ?_ ?_ ?_ ?_ <;> decide +kernel
  have failed : hasField.countOf "is" "\u0663" = .error (.badCount "has") := by
    with_unfolding_all rfl
  have compiled := (counts _ _ counted).2 _ failed
  refine ⟨routes, counted, compiled, ?_⟩
  rcases routed _ routes with ⟨filter, other, _⟩ | ⟨error, _, read, _, value⟩
  · rw [compiled] at other
    cases other
  · exact ⟨error, read, value⟩

end TaskQuery
