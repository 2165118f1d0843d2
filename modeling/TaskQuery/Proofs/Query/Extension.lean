import TaskQuery.Proofs.Query.Directive

set_option autoImplicit false

namespace TaskQuery

/-- What is wrong with a line because none of the given fields is the one that it asks for. -/
inductive MissingField (fields : List Field) (line : Text) : Problem → Prop where
  | unrecognized (unreserved : Directive.reserved? fields line.lower = none)
    (nobody : ∀ field ∈ fields, field.recognizes line = false) :
    MissingField fields line .unknownLine
  | sort (property : Text) (opens : Text.ofString "sort by " <+: line.lower)
    (unnamed : ∀ field ∈ fields, field.name.asciiLower ≠ property.asciiLower) :
    MissingField fields line (.unsortable property)
  | group (property : Text) (opens : Text.ofString "group by " <+: line.lower)
    (unnamed : ∀ field ∈ fields, field.name.asciiLower ≠ property.asciiLower) :
    MissingField fields line (.ungroupable property)

section

variable {fields : List Field} (more : List Field)

theorem Field.find?_append {name : Text} {field : Field} (found : find? fields name = some field) :
    find? (fields ++ more) name = some field := by
  unfold find? at found ⊢
  rw [List.find?_append, found]
  rfl

theorem Field.unnamed_of_find? {name : Text} (found : find? fields name = none) :
    ∀ field ∈ fields, field.name.asciiLower ≠ name.asciiLower := by
  simpa [find?] using found

namespace Directive

variable {line : Text}

theorem sortBy_append (property : Text) (reverse : Bool)
    (named : sortBy fields property reverse = .error (.unsortable property) →
      ∃ field, Field.find? fields property = some field) :
    sortBy (fields ++ more) property reverse = sortBy fields property reverse := by
  cases found : Field.find? fields property with
  | some field => simp only [sortBy, found, Field.find?_append more found]
  | none =>
    obtain ⟨field, impossible⟩ := named (by simp [sortBy, found])
    rw [found] at impossible
    cases impossible

theorem readSort_append (text : Text)
    (named : ∀ property, readSort fields text = .error (.unsortable property) →
      ∃ field, Field.find? fields property = some field) :
    readSort (fields ++ more) text = readSort fields text := by
  unfold readSort at named ⊢
  split
  next shape =>
    simp only [shape] at named
    exact sortBy_append more [] false (named [])
  next property shape =>
    simp only [shape] at named
    exact sortBy_append more property false (named property)
  next property word shape =>
    simp only [shape] at named
    split
    next reverse =>
      rw [if_pos reverse] at named
      exact sortBy_append more property true (named property)
    next => rfl
  next => rfl

theorem groupBy_append (property : Text)
    (named : groupBy fields property = .error (.ungroupable property) →
      ∃ field, Field.find? fields property = some field) :
    groupBy (fields ++ more) property = groupBy fields property := by
  cases found : Field.find? fields property with
  | some field => simp only [groupBy, found, Field.find?_append more found]
  | none =>
    obtain ⟨field, impossible⟩ := named (by simp [groupBy, found])
    rw [found] at impossible
    cases impossible

-- Only the lines that sort or group ask the fields before they are reserved.
theorem reserved?_append (lowered : Text) (noSort : ¬ Text.ofString "sort by " <+: lowered)
    (noGroup : ¬ Text.ofString "group by " <+: lowered) :
    reserved? (fields ++ more) lowered = reserved? fields lowered := by
  have refused (opening : Text) (other : ¬ opening <+: lowered) : opening.strip? lowered = none := by
    rw [Option.eq_none_iff_forall_ne_some]
    intro rest stripped
    exact other ⟨rest, ((Text.strip?_eq_some _ _ _).mp stripped).symm⟩
  simp [reserved?, openings, List.findSome?_cons, refused _ noSort, refused _ noGroup]

theorem readFilter_append
    (asked : readFilter fields line = .error ⟨line, .unknownLine⟩ →
      ∃ field ∈ fields, field.recognizes line = true) :
    readFilter (fields ++ more) line = readFilter fields line := by
  cases found : fields.find? (·.recognizes line) with
  | some field => simp [readFilter, found, List.find?_append]
  | none =>
    obtain ⟨field, member, recognizes⟩ := asked (by simp [readFilter, found])
    have refused := List.find?_eq_none.mp found field member
    exact absurd recognizes refused

theorem read_sort (fields : List Field) {rest : Text}
    (shape : line.lower = Text.ofString "sort by " ++ rest) :
    Directive.read fields line = (readSort fields rest).mapError (CompileError.mk line) :=
  read_opening (by simp [openings]) shape

theorem read_group (fields : List Field) {rest : Text}
    (shape : line.lower = Text.ofString "group by " ++ rest) :
    Directive.read fields line = (groupBy fields rest.trim).mapError (CompileError.mk line) := by
  have opens : (Text.ofString "group by ", fun cs : Text => groupBy fields cs.trim) ∈
      openings fields := by
    simp [openings]
  rw [read_opening opens shape]

theorem read_append
    (known : ∀ error, Directive.read fields line = .error error →
      ¬ MissingField fields line error.problem) :
    Directive.read (fields ++ more) line = Directive.read fields line := by
  have named {problem : Problem} {property : Text}
      (refused : Directive.read fields line = .error ⟨line, problem⟩)
      (missing : (∀ field ∈ fields, field.name.asciiLower ≠ property.asciiLower) →
        MissingField fields line problem) :
      ∃ field, Field.find? fields property = some field := by
    rw [← Option.ne_none_iff_exists']
    intro none
    exact known _ refused (missing (Field.unnamed_of_find? none))
  by_cases sorts : Text.ofString "sort by " <+: line.lower
  · obtain ⟨rest, shape⟩ := sorts
    rw [read_sort (fields ++ more) shape.symm, read_sort fields shape.symm,
      readSort_append more rest]
    intro property refused
    apply named _ (.sort property ⟨rest, shape⟩)
    rw [read_sort fields shape.symm, refused]
    rfl
  by_cases groups : Text.ofString "group by " <+: line.lower
  · obtain ⟨rest, shape⟩ := groups
    rw [read_group (fields ++ more) shape.symm, read_group fields shape.symm, groupBy_append more]
    intro refused
    apply named _ (.group _ ⟨rest, shape⟩)
    rw [read_group fields shape.symm, refused]
    rfl
  unfold Directive.read at known ⊢
  rw [reserved?_append more line.lower sorts groups]
  cases unreserved : reserved? fields line.lower with
  | some result => rfl
  | none =>
    rw [unreserved] at known
    apply readFilter_append
    intro refused
    by_contra nobody
    push Not at nobody
    exact known _ refused (.unrecognized unreserved (by simpa using nobody))

end Directive

def QueryError.MissesField (fields : List Field) (lines : List (Text × Nat))
    (error : QueryError) : Prop :=
  ∃ line, (line, error.number) ∈ lines ∧ MissingField fields line error.error.problem

theorem readLine_append (line : Text × Nat)
    (known : ∀ error, readLine fields line = .error error → ¬ error.MissesField fields [line]) :
    readLine (fields ++ more) line = readLine fields line := by
  unfold readLine at known ⊢
  rw [Directive.read_append more]
  intro error refused missing
  rw [refused] at known
  exact known ⟨line.2, error⟩ rfl ⟨line.1, List.mem_singleton_self line, missing⟩

-- The first line that fails decides, so only the lines up to it have to be read alike.
theorem readLines_append (lines : List (Text × Nat))
    (known : ∀ error, lines.mapM (readLine fields) = .error error →
      ¬ error.MissesField fields lines) :
    lines.mapM (readLine (fields ++ more)) = lines.mapM (readLine fields) := by
  induction lines with
  | nil => rfl
  | cons line lines ih =>
    simp only [List.mapM_cons] at known ⊢
    cases read : readLine fields line with
    | error error =>
      rw [read] at known
      have same : readLine (fields ++ more) line = .error error := by
        rw [readLine_append more line, read]
        intro problem refused ⟨text, member, missing⟩
        rw [read] at refused
        cases refused
        exact known error rfl ⟨text, List.mem_append_left lines member, missing⟩
      rw [same]
      rfl
    | ok directive =>
      have same : readLine (fields ++ more) line = .ok directive := by
        rw [readLine_append more line, read]
        simp [read]
      rw [read] at known
      rw [same, ih]
      intro error refused ⟨text, member, missing⟩
      exact known error (by rw [refused]; rfl) ⟨text, List.mem_cons_of_mem line member, missing⟩

end

/-- More fields behind the given ones leave every query as it is, and so its layout, its account
and its groups, and every error but those about a field that is missing. -/
theorem Query.read_with_more_fields (fields more : List Field) (source : Text) :
    (∀ query, Query.read fields source = .ok query →
      Query.read (fields ++ more) source = .ok query) ∧
    ∀ error, Query.read fields source = .error error →
      ¬ error.MissesField fields (numberedLines source) →
      Query.read (fields ++ more) source = .error error := by
  have same (known : ∀ error, Query.read fields source = .error error →
      ¬ error.MissesField fields (numberedLines source)) :
      Query.read (fields ++ more) source = Query.read fields source := by
    unfold Query.read readDirectives at known ⊢
    rw [readLines_append more]
    intro error refused
    exact known error (by rw [refused]; rfl)
  refine ⟨fun query read => ?_, fun error refused known => ?_⟩
  · rw [same, read]
    simp [read]
  · rw [same, refused]
    simpa [refused] using known

def unorderedField : Field :=
  { yearEndField.field with compare? := none }

theorem unordered_field_keeps_its_name :
    Query.read [unorderedField] "sort by TOP3" = .error ⟨1, ⟨"sort by TOP3", .unsortable "top3"⟩⟩ ∧
      Query.read ([unorderedField] ++ [yearEndField.field]) "sort by TOP3" =
        .error ⟨1, ⟨"sort by TOP3", .unsortable "top3"⟩⟩ ∧
      ∃ query, Query.read [unorderedField] "no top3 date\nshort" = .ok query ∧
        Query.read ([unorderedField] ++ [yearEndField.field]) "no top3 date\nshort" =
          .ok query := by
  have refused : Query.read [unorderedField] "sort by TOP3" =
      .error ⟨1, ⟨"sort by TOP3", .unsortable "top3"⟩⟩ := by
    with_unfolding_all rfl
  have named : ¬ QueryError.MissesField [unorderedField] (numberedLines "sort by TOP3")
      ⟨1, ⟨"sort by TOP3", .unsortable "top3"⟩⟩ := by
    rintro ⟨line, _, missing⟩
    cases missing with
    | sort _ _ unnamed => exact unnamed unorderedField (by simp) (by with_unfolding_all rfl)
  have read : ∃ query, Query.read [unorderedField] "no top3 date\nshort" = .ok query :=
    ⟨_, by with_unfolding_all rfl⟩
  obtain ⟨query, read⟩ := read
  exact ⟨refused,
    (Query.read_with_more_fields _ [yearEndField.field] _).2 _ refused named, query, read,
    (Query.read_with_more_fields _ [yearEndField.field] _).1 query read⟩

end TaskQuery
