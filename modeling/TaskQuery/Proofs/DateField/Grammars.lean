import TaskQuery.Proofs.DateField.CountGrammar

set_option autoImplicit false

namespace TaskQuery

abbrev Grammar := Text → Option (Except Problem Condition)

def Grammar.first? (order : List Grammar) : Grammar :=
  fun line => order.findSome? fun grammar => grammar line

@[simp] theorem Grammar.first?_alone (grammar : Grammar) (line : Text) :
    first? [grammar] line = grammar line := by
  cases found : grammar line <;> simp [first?, found]

namespace DateField

variable (field : DateField) {line : Text}

def grammars : List Grammar :=
  [fun line => (field.phrase? line).map .ok, field.count?, field.date?]

def compileBy (order : List Grammar) (line : Text) : Except CompileError Filter :=
  match Grammar.first? order line with
  | none => .error ⟨line, .notAbout field.name⟩
  | some (.error problem) => .error ⟨line, problem⟩
  | some (.ok condition) => .ok ⟨line, field.accepts condition, condition.explain field.name⟩

theorem read?_eq_first? (line : Text) : field.read? line = Grammar.first? field.grammars line := by
  simp only [read?, grammars, Grammar.first?, List.findSome?]
  cases field.phrase? line <;> cases field.count? line <;> cases field.date? line <;> rfl

theorem compile_eq_compileBy (line : Text) :
    field.compile line = field.compileBy field.grammars line := by
  have read := field.read?_eq_first? line
  cases found : Grammar.first? field.grammars line with
  | none => simp [compile, compileBy, read, found]
  | some outcome => cases outcome <;> simp [compile, compileBy, read, found]

theorem compileBy_eq_ok_iff (order : List Grammar) (filter : Filter) :
    field.compileBy order line = .ok filter ↔ ∃ condition,
      Grammar.first? order line = some (.ok condition) ∧
        ⟨line, field.accepts condition, condition.explain field.name⟩ = filter := by
  unfold compileBy
  cases Grammar.first? order line with
  | none => simp
  | some outcome => cases outcome <;> simp

theorem compileBy_isOk (order : List Grammar) :
    (field.compileBy order line).isOk = true ↔
      ∃ condition, Grammar.first? order line = some (.ok condition) := by
  unfold compileBy
  cases Grammar.first? order line with
  | none => simp [Except.isOk, Except.toBool]
  | some outcome => cases outcome <;> simp [Except.isOk, Except.toBool]

theorem phrase?_isSome (line : Text) : (field.phrase? line).isSome = true ↔
    line.lower = (datedPhrase field.name).lower ∨ line.lower = (undatedPhrase field.name).lower := by
  rw [phrase?, Option.isSome_map, Phrasebook.entry?, List.find?_isSome]
  simp only [phrases, Phrasebook.add, List.nil_append, List.cons_append, List.mem_cons,
    List.not_mem_nil, or_false, exists_eq_or_imp, exists_eq_left, decide_eq_true_eq]
  rw [eq_comm, eq_comm (a := (undatedPhrase field.name).lower)]

theorem date?_isSome (line : Text) :
    (field.date? line).isSome = true ↔ ∃ rest, field.Names line rest := by
  simp only [← field.names_iff]
  cases stripped : (field.name ++ " ").stripCaseless? line with
  | none => simp [date?, stripped]
  | some rest =>
    have claimed : (field.date? line).isSome = true := by
      simp only [date?, stripped, Option.bind_eq_bind, Option.bind_some]
      split <;> rfl
    simp [claimed]

theorem recognizes_iff (line : Text) : field.recognizes line = true ↔
    line.lower = (datedPhrase field.name).lower ∨ line.lower = (undatedPhrase field.name).lower ∨
      ∃ rest, field.Names line rest := by
  have counts : (field.count? line).isSome = true → ∃ rest, field.Names line rest := by
    intro claimed
    obtain ⟨sign, digits, counted⟩ := (field.count?_isSome line).mp claimed
    exact counted.names
  rw [recognizes_eq, read?, Option.isSome_or, Option.isSome_or, Option.isSome_map,
    Bool.or_eq_true, Bool.or_eq_true, phrase?_isSome, date?_isSome, or_assoc,
    or_iff_right_of_imp counts]

theorem phrase?_of_count? {outcome : Except Problem Condition}
    (claimed : field.count? line = some outcome) : field.phrase? line = none := by
  obtain ⟨sign, digits, counted, _⟩ := (field.count?_eq_some_iff line outcome).mp claimed
  exact counted.not_phrase

theorem unclaimed_of_date? {condition : Condition} (single : '\n' ∉ line)
    (dated : field.date? line = some (.ok condition)) :
    field.phrase? line = none ∧ field.count? line = none := by
  obtain ⟨rest, stripped, _⟩ := Option.bind_eq_some_iff.mp dated
  have names := (field.names_iff line rest).mp stripped
  rw [field.date?_behind line rest (names.single single) names] at dated
  cases read : field.dateOf? rest with
  | none => simp [read] at dated
  | some found =>
    obtain ⟨text, meaning, range, phrase, resolved⟩ := DatePhrase.of_dateOf? field rest found read
    have shaped := DateRange.resolve?_dateShaped field.today text range resolved
    -- A date or a range neither ends in `date` nor starts with `count`.
    obtain ⟨first, opens, notCount⟩ := phrase.not_count shaped
    obtain ⟨last, closes, notPhrase⟩ := phrase.not_phrase shaped
    have ends : line.closing? = some last := by
      obtain ⟨name, rfl, _⟩ := names
      simpa using Text.closing?_append (name ++ [' ']) rest last closes
    exact ⟨phrase?_of_closing field line last ends notPhrase,
      count?_of_opening field line rest names first opens notCount⟩

-- A later grammar may claim a line that an earlier one accepts, but only to refuse it.
theorem grammars_apart (single : '\n' ∉ line) :
    field.grammars.Pairwise fun earlier later =>
      ∀ condition, later line = some (.ok condition) → earlier line = none := by
  have counts : ∀ condition, field.count? line = some (.ok condition) →
      field.phrase? line = none :=
    fun _ counted => field.phrase?_of_count? counted
  have dates : ∀ condition, field.date? line = some (.ok condition) →
      field.phrase? line = none ∧ field.count? line = none :=
    fun _ dated => field.unclaimed_of_date? single dated
  simp only [grammars, List.pairwise_cons, List.mem_cons, List.not_mem_nil, or_false,
    forall_eq_or_imp, forall_eq, Option.map_eq_none_iff]
  exact ⟨⟨counts, fun condition dated => (dates condition dated).1⟩,
    fun condition dated => (dates condition dated).2, by simp⟩

theorem first?_of_accepts (single : '\n' ∉ line) {grammar : Grammar} {condition : Condition}
    (member : grammar ∈ field.grammars) (accepts : grammar line = some (.ok condition)) :
    Grammar.first? field.grammars line = some (.ok condition) := by
  apply findSome?_of_apart member accepts
  refine (field.grammars_apart single).imp ?_
  rintro earlier _ apart rfl
  exact apart condition accepts

theorem compile_of_compileBy (single : '\n' ∉ line) {order : List Grammar} {filter : Filter}
    (known : ∀ grammar ∈ order, grammar ∈ field.grammars)
    (compiled : field.compileBy order line = .ok filter) : field.compile line = .ok filter := by
  obtain ⟨condition, found, same⟩ := (field.compileBy_eq_ok_iff order filter).mp compiled
  obtain ⟨grammar, member, accepts⟩ := List.exists_of_findSome?_eq_some found
  rw [compile_eq_compileBy, compileBy_eq_ok_iff]
  exact ⟨condition, field.first?_of_accepts single (known grammar member) accepts, same⟩

/-- On a line without a break at most one grammar makes a filter on its own. Another order of the
grammars may lose a line, but gives none another meaning. -/
theorem grammars_exclusive (field : DateField) (line : Text) (single : '\n' ∉ line) :
    (field.grammars.countP fun grammar => (field.compileBy [grammar] line).isOk) ≤ 1 ∧
    (∀ filter, field.compile line = .ok filter ↔
      ∃ grammar ∈ field.grammars, field.compileBy [grammar] line = .ok filter) ∧
    ∀ order : List Grammar, order.Perm field.grammars → ∀ filter,
      field.compileBy order line = .ok filter → field.compile line = .ok filter := by
  refine ⟨?_, ?_, ?_⟩
  · apply countP_le_one
    refine (field.grammars_apart single).imp ?_
    intro earlier later apart accepts
    obtain ⟨condition, accepts⟩ := (field.compileBy_isOk [later]).mp accepts
    rw [Grammar.first?_alone] at accepts
    rw [← Bool.not_eq_true, compileBy_isOk, Grammar.first?_alone, apart condition accepts]
    simp
  · intro filter
    constructor
    · intro compiled
      rw [compile_eq_compileBy, compileBy_eq_ok_iff] at compiled
      obtain ⟨condition, found, same⟩ := compiled
      obtain ⟨grammar, member, accepts⟩ := List.exists_of_findSome?_eq_some found
      refine ⟨grammar, member, (field.compileBy_eq_ok_iff _ _).mpr ⟨condition, ?_, same⟩⟩
      rw [Grammar.first?_alone, accepts]
    · intro ⟨grammar, member, compiled⟩
      exact field.compile_of_compileBy single (by simpa using member) compiled
  · intro order perm filter compiled
    exact field.compile_of_compileBy single (fun grammar => perm.mem_iff.mp) compiled

end DateField

def hasField : DateField :=
  { marchField with name := "has" }

theorem hasField_grammars_reversed :
    '\n' ∉ ("Has in this week" : Text) ∧
      (hasField.grammars.countP fun grammar =>
        (hasField.compileBy [grammar] "Has in this week").isOk) ≤ 1 ∧
      hasField.grammars.reverse.Perm hasField.grammars ∧
      ∃ filter, hasField.compileBy hasField.grammars.reverse "Has in this week" = .ok filter ∧
        hasField.compile "Has in this week" = .ok filter := by
  have single : '\n' ∉ ("Has in this week" : Text) := by
    rw [Text.ofString_eq]
    decide
  have perm : hasField.grammars.reverse.Perm hasField.grammars := List.reverse_perm _
  obtain ⟨once, _, ordered⟩ := hasField.grammars_exclusive "Has in this week" single
  obtain ⟨filter, compiled⟩ : ∃ filter,
      hasField.compileBy hasField.grammars.reverse "Has in this week" = .ok filter :=
    ⟨_, by with_unfolding_all rfl⟩
  exact ⟨single, once, perm, filter, compiled, ordered _ perm filter compiled⟩

end TaskQuery
