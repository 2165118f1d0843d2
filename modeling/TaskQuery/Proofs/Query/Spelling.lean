import Mathlib.Data.List.Find
import TaskQuery.Proofs.DateField.Spelling
import TaskQuery.Proofs.Query.Directive
import TaskQuery.Proofs.Query.Sorting

set_option autoImplicit false

namespace TaskQuery

open Text

def Directive.lowered : Directive → Directive
  | .filter asked => .filter asked.lowered
  | directive => directive

def Query.lowered (query : Query) : Query :=
  { query with filters := query.filters.map Filter.lowered }

theorem Query.lowered_add (query : Query) (directive : Directive) :
    (query.add directive).lowered = query.lowered.add directive.lowered := by
  cases directive <;> simp [add, lowered, Directive.lowered]

theorem Query.foldl_lowered (query : Query) (directives : List Directive) :
    (directives.map Directive.lowered).foldl add query.lowered =
      (directives.foldl add query).lowered := by
  induction directives generalizing query with
  | nil => rfl
  | cons directive directives ih =>
    rw [List.map_cons, List.foldl_cons, ← lowered_add, ih, List.foldl_cons]

theorem Query.of_lowered (directives : List Directive) :
    Query.of (directives.map Directive.lowered) = (Query.of directives).lowered :=
  Query.foldl_lowered {} directives

theorem isRemark_asciiLower (line : Text) : isRemark (asciiLower line) = isRemark line := by
  cases line with
  | nil => rfl
  | cons c cs => simp [isRemark, toLower_eq_sign c '#' (by decide)]

section

variable {fields : List Field}

theorem Directive.lowered_of_reserved (line : Text) (directive : Directive)
    (reserved : reserved? fields line.lower = some (.ok directive)) :
    directive.lowered = directive := by
  have read : Directive.read fields line = .ok directive := by
    simp [Directive.read, reserved, Except.mapError]
  cases arises directive read with
  | layout directive quiet =>
    cases directive with
    | explain | short | visibility | display => rfl
    | sort | group | filter => cases quiet
  | sort | group => rfl
  | filter field filter unreserved asked compiled =>
    rw [reserved] at unreserved
    cases unreserved

variable (ignores : ∀ field ∈ fields, field.IgnoresCase)
include ignores

theorem Directive.toOption_readFilter (line : Text) :
    (readFilter fields (asciiLower line)).toOption =
      (readFilter fields line).toOption.map Directive.lowered := by
  have asked : fields.find? (·.recognizes (asciiLower line)) = fields.find? (·.recognizes line) :=
    List.find?_congr fun field member => (ignores field member).recognizes line
  simp only [readFilter, asked]
  cases found : fields.find? (·.recognizes line) with
  | none => rfl
  | some field =>
    have compiled := (ignores field (List.mem_of_find?_eq_some found)).compile line
    dsimp only
    cases here : field.compile line <;> cases small : field.compile (asciiLower line) <;>
      simp_all [Except.toOption, Except.map, Directive.lowered]

theorem Directive.toOption_read (line : Text) :
    (read fields (asciiLower line)).toOption =
      (read fields line).toOption.map Directive.lowered := by
  cases reserved : reserved? fields line.lower with
  | none =>
    simp only [read, lower_asciiLower, reserved]
    exact toOption_readFilter ignores line
  | some result =>
    simp only [read, lower_asciiLower, reserved]
    cases result with
    | error problem => rfl
    | ok directive =>
      have same := lowered_of_reserved line directive reserved
      simp [Except.mapError, Except.toOption, same]

theorem readFrom_asciiLower (number : Nat) (lines : List Text) :
    (readFrom fields number (lines.map asciiLower)).mapError QueryError.number =
      ((readFrom fields number lines).mapError QueryError.number).map
        (List.map Directive.lowered) := by
  induction lines generalizing number with
  | nil => rfl
  | cons line lines ih =>
    have small : isRemark (asciiLower line).trim = isRemark line.trim := by
      rw [trim_asciiLower, isRemark_asciiLower]
    rw [List.map_cons]
    cases remark : isRemark line.trim with
    | true =>
      rw [readFrom_remark fields number line lines remark,
        readFrom_remark fields number _ _ (small.trans remark), ih]
    | false =>
      have speaks := small.trans remark
      have read := Directive.toOption_read ignores line.trim
      rw [← trim_asciiLower] at read
      cases here : Directive.read fields line.trim with
      | error error =>
        cases there : Directive.read fields (asciiLower line).trim with
        | error error' =>
          rw [readFrom_error fields number line lines error remark here,
            readFrom_error fields number _ _ error' speaks there]
          rfl
        | ok directive => simp [here, there, Except.toOption] at read
      | ok directive =>
        cases there : Directive.read fields (asciiLower line).trim with
        | error error => simp [here, there, Except.toOption] at read
        | ok directive' =>
          obtain rfl : directive' = directive.lowered := by
            simpa [here, there, Except.toOption] using read
          have rest := ih (number + 1)
          rw [readFrom_ok fields number line lines directive remark here,
            readFrom_ok fields number _ _ _ speaks there]
          cases behind : readFrom fields (number + 1) lines <;>
            cases behind' : readFrom fields (number + 1) (lines.map asciiLower) <;>
            simp_all [Except.map, Except.mapError]

theorem Query.read_asciiLower (source : Text) :
    (Query.read fields (asciiLower source)).mapError QueryError.number =
      ((Query.read fields source).mapError QueryError.number).map Query.lowered := by
  have read := readFrom_asciiLower ignores 1 source.lines
  rw [← lines_asciiLower] at read
  rw [Query.read_eq, Query.read_eq]
  cases here : readFrom fields 1 source.lines <;>
    cases small : readFrom fields 1 (asciiLower source).lines <;>
    simp_all [Except.map, Except.mapError, Query.of_lowered]

end

theorem Query.alike_of_lowered (query query' : Query) (same : query.lowered = query'.lowered) :
    query.layout = query'.layout ∧
      List.Forall₂ (fun filter filter' => filter.explanation = filter'.explanation)
        query.filters query'.filters ∧
      ∀ {α : Type} (task : α → Task) (items : List α),
        query.apply task items = query'.apply task items := by
  obtain ⟨filters, sorters, groupers, layout⟩ :
      query.filters.map Filter.lowered = query'.filters.map Filter.lowered ∧
        query.sorters = query'.sorters ∧ query.groupers = query'.groupers ∧
        query.layout = query'.layout := by
    simpa only [Query.lowered, Query.mk.injEq] using same
  have accepts (query : Query) (task : Task) : query.lowered.accepts task = query.accepts task := by
    simp [Query.accepts, Query.lowered, Filter.lowered, Function.comp_def]
  refine ⟨layout, ?_, ?_⟩
  · rw [← List.forall₂_eq_eq_eq, List.forall₂_map_left_iff, List.forall₂_map_right_iff] at filters
    exact filters.imp fun _ _ alike => congrArg Filter.explanation alike
  · intro α task items
    refine Query.apply_congr ?_ sorters groupers task items
    intro task
    rw [← accepts query, same, accepts query']

/-- Two texts that differ in the case of ASCII letters only, read as documents, come to queries that
show, explain and answer alike or fail on the same line; as lines they are about the same fields. -/
theorem Query.read_ignores_case (dates : List DateField) (source other : Text)
    (same : source.asciiLower = other.asciiLower) :
    (∀ query, Query.read (dates.map DateField.field) source = .ok query →
      ∃ query', Query.read (dates.map DateField.field) other = .ok query' ∧
        query.layout = query'.layout ∧
        List.Forall₂ (fun filter filter' => filter.explanation = filter'.explanation)
          query.filters query'.filters ∧
        ∀ {α : Type} (task : α → Task) (items : List α),
          query.apply task items = query'.apply task items) ∧
    (∀ error, Query.read (dates.map DateField.field) source = .error error →
      ∃ error', Query.read (dates.map DateField.field) other = .error error' ∧
        error.number = error'.number) ∧
    ∀ field : DateField, field.recognizes source = field.recognizes other := by
  have ignores : ∀ field ∈ dates.map DateField.field, field.IgnoresCase := by
    intro field member
    obtain ⟨date, _, rfl⟩ := List.mem_map.mp member
    exact date.ignoresCase
  have small := Query.read_asciiLower ignores source
  rw [same, Query.read_asciiLower ignores other] at small
  refine ⟨?_, ?_, ?_⟩
  · intro query read
    cases read' : Query.read (dates.map DateField.field) other with
    | ok query' =>
      simp only [read, read', Except.mapError, Except.map, Except.ok.injEq] at small
      exact ⟨query', rfl, Query.alike_of_lowered query query' small.symm⟩
    | error error' => simp [read, read', Except.mapError, Except.map] at small
  · intro error read
    cases read' : Query.read (dates.map DateField.field) other with
    | ok query' => simp [read, read', Except.mapError, Except.map] at small
    | error error' =>
      simp only [read, read', Except.mapError, Except.map, Except.error.injEq] at small
      exact ⟨error', rfl, small.symm⟩
  · intro field
    rw [← field.recognizes_asciiLower source, same, field.recognizes_asciiLower]

def shouted : Text := "SORT BY AGAIN\nTOP3 COUNT IS 2"

def whispered : Text := "Sort by again\nTop3 count is 2"

theorem whispered_read_as_shouted :
    shouted.asciiLower = whispered.asciiLower ∧
      ∃ query query' : Query,
        Query.read [yearEndField.field, againField.field] shouted = .ok query ∧
        Query.read [yearEndField.field, againField.field] whispered = .ok query' ∧
        query.layout = query'.layout ∧
        List.Forall₂ (fun filter filter' => filter.explanation = filter'.explanation)
          query.filters query'.filters ∧
        query.apply id [⟨"tea", [], 2⟩, ⟨"cake", [], 3⟩] =
          query'.apply id [⟨"tea", [], 2⟩, ⟨"cake", [], 3⟩] := by
  have same : shouted.asciiLower = whispered.asciiLower := by
    rw [shouted, whispered, Text.ofString_eq, Text.ofString_eq]
    decide
  obtain ⟨query, read⟩ : ∃ query,
      Query.read [yearEndField.field, againField.field] shouted = .ok query :=
    ⟨_, by with_unfolding_all rfl⟩
  obtain ⟨alike, _, _⟩ := Query.read_ignores_case [yearEndField, againField] shouted whispered
    same
  obtain ⟨query', read', layout, explanations, answers⟩ := alike query read
  exact ⟨same, query, query', read, read', layout, explanations, answers id _⟩

end TaskQuery
