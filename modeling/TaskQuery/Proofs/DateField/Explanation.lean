import TaskQuery.Proofs.Calendar.Iso
import TaskQuery.Proofs.DateField.Relation

set_option autoImplicit false

namespace TaskQuery

@[simp] theorem Explanation.text_leaf (description : Text) :
    (leaf description).text = description := by
  simp [text, render]

theorem DateRange.single_eq (date : Date) : DateRange.single date = ⟨date, date, le_refl date⟩ :=
  dif_pos (le_refl date)

theorem DateRange.eq_single (range : DateRange) (single : range.isSingle = true) :
    range = .single range.first := by
  obtain ⟨first, last, ordered⟩ := range
  simp only [isSingle, decide_eq_true_eq] at single
  subst single
  rw [single_eq]

namespace DateRelation

def told (range : DateRange) : DateRelation → DateRange
  | .before | .onOrAfter => .single range.first
  | .onOrBefore | .after => .single range.last
  | .on => range

theorem holds_told (relation : DateRelation) (date : Date) (range : DateRange) :
    relation.holds date (relation.told range) = relation.holds date range := by
  cases relation with
  | on => rfl
  | before | onOrBefore | onOrAfter | after => simp [holds, told, DateRange.single_eq]

def wording : DateRelation → Text
  | .before => "before "
  | .onOrBefore => "on or before "
  | .on => "on "
  | .onOrAfter => "on or after "
  | .after => "after "

def betweenText (range : DateRange) : Text :=
  "between:\n  " ++ range.first.long ++ " and\n  " ++ range.last.long ++ " inclusive"

theorem explain_text (name : Text) (relation : DateRelation) (range : DateRange) :
    (∃ date, relation.told range = .single date ∧
      (relation.explain name range).text = name ++ " date is " ++ (relation.wording ++ date.long)) ∨
    (relation = .on ∧
      (relation.explain name range).text = name ++ " date is " ++ betweenText range) := by
  cases relation with
  | before => exact .inl ⟨range.first, rfl, by simp [explain, wording, Text.ofString_eq]⟩
  | onOrBefore => exact .inl ⟨range.last, rfl, by simp [explain, wording, Text.ofString_eq]⟩
  | onOrAfter => exact .inl ⟨range.first, rfl, by simp [explain, wording, Text.ofString_eq]⟩
  | after => exact .inl ⟨range.last, rfl, by simp [explain, wording, Text.ofString_eq]⟩
  | on =>
    cases single : range.isSingle with
    | true =>
      refine .inl ⟨range.first, range.eq_single single, ?_⟩
      simp [explain, single, wording, Text.ofString_eq]
    | false =>
      refine .inr ⟨rfl, ?_⟩
      simp [explain, single, Explanation.text, Explanation.render, Explanation.renderBelow,
        betweenText, Text.ofString_eq]

theorem wordings_apart (earlier later : DateRelation) (front : earlier.wording <+: later.wording) :
    earlier = later ∨ earlier.wording ++ ['o'] <+: later.wording := by
  revert front
  cases earlier <;> cases later <;> simp [wording, Text.ofString_eq]

theorem eq_of_wording_front {earlier later : DateRelation} {date day : Date}
    (whole : later.wording ++ day.long = earlier.wording ++ date.long)
    (front : earlier.wording <+: later.wording) : earlier = later := by
  rcases wordings_apart earlier later front with same | longer
  · exact same
  · have behind := longer.trans (List.prefix_append later.wording day.long)
    obtain ⟨c, tail, shape, opens⟩ := date.long_opens
    rw [whole, List.prefix_append_right_inj, shape, List.cons_prefix_cons] at behind
    -- No date opens with the o that the longer of two wordings goes on with.
    rcases opens with rfl | digit
    · exact absurd behind.1 (by decide)
    · rw [← behind.1] at digit
      cases digit

theorem wording_inj {relation other : DateRelation} {date day : Date}
    (same : relation.wording ++ date.long = other.wording ++ day.long) :
    relation = other ∧ date = day := by
  have relations : relation = other := by
    have front := List.prefix_append relation.wording date.long
    rw [same] at front
    rcases List.prefix_or_prefix_of_prefix front (List.prefix_append other.wording day.long) with
      shorter | longer
    · exact eq_of_wording_front same.symm shorter
    · exact (eq_of_wording_front same longer).symm
  subst relations
  rw [List.append_cancel_left_eq] at same
  have dates : date.long ++ [] = day.long ++ [] := by rw [same]
  exact ⟨rfl, (Date.long_append_inj dates).1⟩

theorem betweenText_inj {range other : DateRange} (same : betweenText range = betweenText other) :
    range = other := by
  simp only [betweenText, List.append_assoc, List.append_cancel_left_eq] at same
  obtain ⟨first, rest⟩ := Date.long_append_inj same
  rw [List.append_cancel_left_eq] at rest
  obtain ⟨last, _⟩ := Date.long_append_inj rest
  cases range
  cases other
  simp_all

theorem wording_ne_between (relation : DateRelation) (date : Date) (range : DateRange) :
    relation.wording ++ date.long ≠ betweenText range := by
  cases relation <;> simp [wording, betweenText, Text.ofString_eq]

theorem explain_inj {name : Text} {relation other : DateRelation} {range span : DateRange}
    (same : (relation.explain name range).text = (other.explain name span).text) :
    relation = other ∧ relation.told range = other.told span := by
  rcases explain_text name relation range with ⟨date, told, text⟩ | ⟨rfl, text⟩ <;>
    rcases explain_text name other span with ⟨day, told', text'⟩ | ⟨rfl, text'⟩ <;>
    rw [text, text', List.append_cancel_left_eq] at same
  · obtain ⟨rfl, rfl⟩ := wording_inj same
    exact ⟨rfl, told.trans told'.symm⟩
  · exact absurd same (wording_ne_between _ _ _)
  · exact absurd same.symm (wording_ne_between _ _ _)
  · exact ⟨rfl, betweenText_inj same⟩

end DateRelation

theorem CountRelation.wordings_apart (relation other : CountRelation)
    (front : relation.wording ++ [' '] <+: other.wording ++ [' ']) : relation = other := by
  revert front
  cases relation <;> cases other <;> simp [wording, Text.ofString_eq]

namespace Condition

def told : Condition → Condition
  | .latest relation range => .latest relation (relation.told range)
  | condition => condition

theorem accepts_told (condition : Condition) (dates : List Date) (count : Nat) :
    condition.told.accepts dates count = condition.accepts dates count := by
  cases condition with
  | dated | undated | count => rfl
  | latest relation range => simp [told, accepts, DateRelation.holds_told]

theorem count_explain_inj {name : Text} {relation other : CountRelation} {bound limit : Nat}
    (same : ((count relation bound).explain name).text = ((count other limit).explain name).text) :
    relation = other ∧ bound = limit := by
  have space : (" " : Text) = [' '] := Text.ofString_eq " "
  simp only [explain, Explanation.text_leaf, List.append_assoc, List.append_cancel_left_eq,
    space] at same
  rw [← List.append_assoc, ← List.append_assoc] at same
  have relations : relation = other := by
    have front := List.prefix_append (relation.wording ++ [' ']) (Text.ofNat bound)
    rw [same] at front
    rcases List.prefix_or_prefix_of_prefix front (List.prefix_append _ _) with shorter | longer
    · exact CountRelation.wordings_apart relation other shorter
    · exact (CountRelation.wordings_apart other relation longer).symm
  subst relations
  rw [List.append_cancel_left_eq] at same
  refine ⟨rfl, ?_⟩
  rw [← Text.value_ofNat bound, same, Text.value_ofNat]

theorem count_ne_latest (name : Text) (relation : CountRelation) (bound : Nat)
    (asked : DateRelation) (range : DateRange) :
    ((count relation bound).explain name).text ≠ ((latest asked range).explain name).text := by
  rcases DateRelation.explain_text name asked range with ⟨date, _, text⟩ | ⟨_, text⟩ <;>
    rw [explain, explain, text] <;>
    simp [Text.ofString_eq]

theorem explain_ends_date (name : Text) (condition : Condition) :
    [' ', 'd', 'a', 't', 'e'] <:+ (condition.explain name).text ↔
      condition = .dated ∨ condition = .undated := by
  have last {cs : Text} (ends : [' ', 'd', 'a', 't', 'e'] <:+ cs) : cs.getLast? = some 'e' := by
    obtain ⟨front, rfl⟩ := ends
    simp
  cases condition with
  | dated | undated =>
    simp only [explain, Explanation.text_leaf, reduceCtorEq, true_or, or_true, iff_true]
    exact lower_date_suffix _
  | count relation bound =>
    simp only [reduceCtorEq, or_self, iff_false]
    intro ends
    have number := Text.isNumber_ofNat bound
    simp only [Text.isNumber, Bool.and_eq_true, decide_eq_true_eq, List.all_eq_true] at number
    -- A count ends in a digit.
    have letter : 'e' ∈ Text.ofNat bound := by
      have closes := last ends
      rw [explain, Explanation.text_leaf, List.getLast?_append_of_ne_nil _ number.1] at closes
      exact List.mem_of_getLast? closes
    exact absurd (number.2 'e' letter) (by decide)
  | latest relation range =>
    simp only [reduceCtorEq, or_self, iff_false]
    intro ends
    -- A single date ends in a bracket, and a range in another word.
    rcases DateRelation.explain_text name relation range with ⟨date, _, text⟩ | ⟨_, text⟩
    · have closes := last ends
      rw [explain, text] at closes
      simp [date.long_closes] at closes
    · rw [explain, text] at ends
      obtain ⟨front, whole⟩ := ends
      have letters := congrArg (fun cs => cs.reverse.take 2) whole
      simp [DateRelation.betweenText, Text.ofString_eq] at letters

theorem explain_told (name : Text) (condition : Condition) :
    condition.told.explain name = condition.explain name := by
  cases condition with
  | dated | undated | count => rfl
  | latest relation range =>
    cases relation <;>
      simp [told, explain, DateRelation.told, DateRelation.explain, DateRange.single_eq]

theorem explain_text_eq_iff (name : Text) (condition other : Condition) :
    (condition.explain name).text = (other.explain name).text ↔ condition.told = other.told := by
  constructor
  · intro same
    have ends := explain_ends_date name condition
    rw [same, explain_ends_date] at ends
    cases condition with
    | dated =>
      cases other with
      | dated => rfl
      | undated => exact absurd same (lower_phrases_ne name)
      | count | latest => simp at ends
    | undated =>
      cases other with
      | dated => exact absurd same.symm (lower_phrases_ne name)
      | undated => rfl
      | count | latest => simp at ends
    | count relation bound =>
      cases other with
      | dated | undated => simp at ends
      | count =>
        obtain ⟨rfl, rfl⟩ := count_explain_inj same
        rfl
      | latest => exact absurd same (count_ne_latest _ _ _ _ _)
    | latest relation range =>
      cases other with
      | dated | undated => simp at ends
      | count => exact absurd same.symm (count_ne_latest _ _ _ _ _)
      | latest =>
        obtain ⟨rfl, told⟩ := DateRelation.explain_inj same
        simp only [Condition.told, told]
  · intro same
    rw [← explain_told, same, explain_told]

end Condition

theorem DateField.compile_eq_ok_iff (field : DateField) (line : Text) (filter : Filter) :
    field.compile line = .ok filter ↔ ∃ condition, field.read? line = some (.ok condition) ∧
      filter = ⟨line, field.accepts condition, condition.explain field.name⟩ := by
  unfold compile
  cases field.read? line with
  | none => simp
  | some read =>
    cases read with
    | error problem => simp
    | ok condition => simp [eq_comm]

/-- Two lines that a field explains alike accept the same tasks, even if they were compiled on
different days. -/
theorem DateField.explanations_faithful (name : Text) (dates : Task → List Date)
    (count : Task → Nat) (today other : Date) (line line' : Text) (filter filter' : Filter)
    (first : (DateField.mk name today dates count).compile line = .ok filter)
    (second : (DateField.mk name other dates count).compile line' = .ok filter')
    (same : filter.explanation.text = filter'.explanation.text) :
    ∀ task, filter.accepts task = filter'.accepts task := by
  obtain ⟨condition, _, rfl⟩ := (compile_eq_ok_iff _ line filter).mp first
  obtain ⟨condition', _, rfl⟩ := (compile_eq_ok_iff _ line' filter').mp second
  intro task
  have told : condition.told = condition'.told := (Condition.explain_text_eq_iff name _ _).mp same
  calc condition.accepts (dates task) (count task)
    _ = condition.told.accepts (dates task) (count task) := (condition.accepts_told _ _).symm
    _ = condition'.told.accepts (dates task) (count task) := by rw [told]
    _ = condition'.accepts (dates task) (count task) := condition'.accepts_told _ _

theorem explanations_of_one_day :
    ∃ filter filter' : Filter,
      (DateField.top3 ⟨2024, 3, 19, by decide⟩).compile "top3 before today" = .ok filter ∧
      (DateField.top3 ⟨2024, 3, 20, by decide⟩).compile "Top3 BEFORE 2/4/2024 to yesterday" =
        .ok filter' ∧
      filter.explanation.text = filter'.explanation.text ∧
      ∀ task, filter.accepts task = filter'.accepts task := by
  have day : (DateField.top3 ⟨2024, 3, 19, by decide⟩).read? "top3 before today" =
      some (.ok (.latest .before
        ⟨⟨2024, 3, 19, by decide⟩, ⟨2024, 3, 19, by decide⟩, by decide⟩)) := by
    with_unfolding_all rfl
  have range : (DateField.top3 ⟨2024, 3, 20, by decide⟩).read?
        "Top3 BEFORE 2/4/2024 to yesterday" =
      some (.ok (.latest .before
        ⟨⟨2024, 3, 19, by decide⟩, ⟨2024, 4, 2, by decide⟩, by decide⟩)) := by
    with_unfolding_all rfl
  have first := (DateField.compile_eq_ok_iff _ _ _).mpr ⟨_, day, rfl⟩
  have second := (DateField.compile_eq_ok_iff _ _ _).mpr ⟨_, range, rfl⟩
  exact ⟨_, _, first, second, rfl,
    DateField.explanations_faithful "top3" _ _ _ _ _ _ _ _ first second rfl⟩

end TaskQuery
