import TaskQuery.Proofs.DateField.Explanation
import TaskQuery.Proofs.Text.Block

set_option autoImplicit false

namespace TaskQuery

open Text

namespace Explanation

mutual

def Unbroken : Explanation → Prop
  | .leaf description => '\n' ∉ description
  | .node description children => '\n' ∉ description ∧ UnbrokenBelow children

def UnbrokenBelow : List Explanation → Prop
  | [] => True
  | child :: rest => child.Unbroken ∧ UnbrokenBelow rest

end

section

variable (indentation : Text) (whole : '\n' ∉ indentation) (indented : indentation ≠ [])
include whole indented

theorem isBlock_remark (description : Text) (unbroken : '\n' ∉ description) :
    IsBlock (indentation ++ description) := by
  apply isBlock_whole
  · simp [whole, unbroken]
  · simp [indented]

end

mutual

theorem isBlock_render (indentation : Text) (whole : '\n' ∉ indentation)
    (indented : indentation ≠ []) (explanation : Explanation) (unbroken : explanation.Unbroken) :
    IsBlock (explanation.render indentation) := by
  cases explanation with
  | leaf description => exact isBlock_remark indentation whole indented description unbroken
  | node description children =>
    have deeper : '\n' ∉ indentation ++ ("  " : Text) := by
      simp [whole, ofString_eq]
    have first := isBlock_remark indentation whole indented description unbroken.1
    exact isBlock_append_renderBelow _ deeper (by simp [indented]) _ first children unbroken.2

theorem isBlock_append_renderBelow (indentation : Text) (whole : '\n' ∉ indentation)
    (indented : indentation ≠ []) (front : Text) (block : IsBlock front)
    (children : List Explanation) (unbroken : UnbrokenBelow children) :
    IsBlock (front ++ renderBelow indentation children) := by
  cases children with
  | nil => simpa [renderBelow] using block
  | cons child rest =>
    have first := isBlock_render indentation whole indented child unbroken.1
    have behind := isBlock_append_renderBelow indentation whole indented _ first rest unbroken.2
    simp only [renderBelow, List.cons_append]
    exact (isBlock_append_break front _).mpr ⟨block, behind⟩

end

end Explanation

theorem unbroken_of_isNumber (digits : Text) (number : digits.isNumber = true) : '\n' ∉ digits := by
  intro member
  simp only [isNumber, Bool.and_eq_true, List.all_eq_true] at number
  exact absurd (number.2 '\n' member) (by decide)

theorem Date.iso_unbroken (date : Date) : '\n' ∉ date.iso := by
  have year := unbroken_of_isNumber _ (isNumber_padded 6 date.year.natAbs)
  have year' := unbroken_of_isNumber _ (isNumber_padded 4 date.year.natAbs)
  have month := unbroken_of_isNumber _ (isNumber_padded 2 date.month)
  have day := unbroken_of_isNumber _ (isNumber_padded 2 date.day)
  by_cases negative : date.year < 0 <;> simp [iso, negative, year, year', month, day]

theorem Date.weekdayName_unbroken (date : Date) : '\n' ∉ date.weekdayName := by
  unfold weekdayName
  split <;> simp [ofString_eq]

theorem monthName_unbroken (month : Nat) : '\n' ∉ monthName month := by
  unfold monthName
  split <;> simp [ofString_eq]

theorem ordinalSuffix_unbroken (n : Nat) : '\n' ∉ ordinalSuffix n := by
  unfold ordinalSuffix
  split
  next => simp [ofString_eq]
  next => split <;> simp [ofString_eq]

theorem ofInt_unbroken (n : Int) : '\n' ∉ ofInt n := by
  have digits (n : Nat) := unbroken_of_isNumber _ (isNumber_ofNat n)
  cases n <;> simp [ofInt, digits]

theorem Date.long_unbroken (date : Date) : '\n' ∉ date.long := by
  have day := unbroken_of_isNumber _ (isNumber_ofNat date.day)
  simp [long, ofString_eq, date.iso_unbroken, date.weekdayName_unbroken, day,
    ordinalSuffix_unbroken, monthName_unbroken, ofInt_unbroken]

theorem DateRelation.explain_unbroken (name : Text) (whole : '\n' ∉ name)
    (relation : DateRelation) (range : DateRange) : (relation.explain name range).Unbroken := by
  have first := range.first.long_unbroken
  have last := range.last.long_unbroken
  cases relation with
  | on =>
    by_cases single : range.isSingle <;>
      simp [explain, single, Explanation.Unbroken, Explanation.UnbrokenBelow, ofString_eq, whole,
        first, last]
  | before | onOrBefore | onOrAfter | after =>
    simp [explain, Explanation.Unbroken, ofString_eq, whole, first, last]

theorem Condition.count_explain_unbroken (name : Text) (whole : '\n' ∉ name)
    (relation : CountRelation) (bound : Nat) :
    ((count relation bound).explain name).Unbroken := by
  have number := unbroken_of_isNumber _ (isNumber_ofNat bound)
  have wording : '\n' ∉ relation.wording := by
    cases relation <;> simp [CountRelation.wording, ofString_eq]
  simp [explain, Explanation.Unbroken, ofString_eq, whole, wording, number]

theorem Condition.explain_last (name : Text) (condition : Condition) :
    (condition.explain name).text.getLast? ≠ some '.' := by
  intro stop
  have phrase (ends : [' ', 'd', 'a', 't', 'e'] <:+ (condition.explain name).text) : False := by
    obtain ⟨front, whole⟩ := ends
    rw [← whole] at stop
    simp at stop
  cases condition with
  | dated => exact phrase ((explain_ends_date name _).mpr (.inl rfl))
  | undated => exact phrase ((explain_ends_date name _).mpr (.inr rfl))
  | count relation bound =>
    have number := Text.isNumber_ofNat bound
    simp only [Text.isNumber, Bool.and_eq_true, decide_eq_true_eq, List.all_eq_true] at number
    rw [explain, Explanation.text_leaf, List.getLast?_append_of_ne_nil _ number.1] at stop
    exact absurd (number.2 '.' (List.mem_of_getLast? stop)) (by decide)
  | latest relation range =>
    rcases DateRelation.explain_text name relation range with ⟨date, _, text⟩ | ⟨_, text⟩
    · rw [explain, text] at stop
      simp [date.long_closes] at stop
    · rw [explain, text, DateRelation.betweenText, ← List.append_assoc] at stop
      simp only [← List.append_assoc] at stop
      rw [List.getLast?_append_of_ne_nil _ (by simp [ofString_eq])] at stop
      simp [ofString_eq] at stop

theorem Text.stripCaseless?_unbroken (word cs rest : Text) (single : '\n' ∉ cs)
    (stripped : word.stripCaseless? cs = some rest) : '\n' ∉ word := by
  intro member
  obtain ⟨spelling, rfl, folded⟩ := (stripBy?_eq_some foldCase word cs rest).mp stripped
  have image : foldCase '\n' ∈ spelling.map foldCase := by
    rw [folded]
    exact List.mem_map_of_mem member
  obtain ⟨c, inside, same⟩ := List.mem_map.mp image
  have folded (c : Char) : foldCase c = '\n' ↔ c = '\n' :=
    foldCase_eq_sign c '\n' (by decide) (by decide)
  rw [(folded '\n').mpr rfl, folded] at same
  rw [same] at inside
  exact single (List.mem_append_left rest inside)

theorem DateField.dateOf?_eq_latest (field : DateField) (cs : Text) (condition : Condition)
    (found : field.dateOf? cs = some condition) :
    ∃ relation range, condition = .latest relation range := by
  unfold dateOf? at found
  split at found
  next relation rest _ =>
    obtain ⟨range, _, rfl⟩ := Option.map_eq_some_iff.mp found
    exact ⟨relation, range, rfl⟩
  next =>
    obtain ⟨range, _, rfl⟩ := Option.map_eq_some_iff.mp found
    exact ⟨.on, range, rfl⟩

namespace DateField

variable (field : DateField) (line : Text) (single : '\n' ∉ line) (condition : Condition)
include single

theorem explain_unbroken_of_phrase (found : field.phrase? line = some condition) :
    (condition.explain field.name).Unbroken := by
  obtain ⟨⟨phrase, meaning⟩, entry, rfl⟩ := Option.map_eq_some_iff.mp found
  -- A phrase is explained by itself, so the line is what keeps breaks out.
  have same : phrase = line.lower := by
    simpa using List.find?_some entry
  have known := List.mem_of_find?_eq_some entry
  have whole := lower_unbroken line single
  simp only [phrases, Phrasebook.add, List.nil_append, List.cons_append, List.mem_cons,
    Prod.mk.injEq, List.not_mem_nil, or_false] at known
  rcases known with ⟨spelled, rfl⟩ | ⟨spelled, rfl⟩
  · simpa [Condition.explain, Explanation.Unbroken, ← spelled, same] using whole
  · simpa [Condition.explain, Explanation.Unbroken, ← spelled, same] using whole

theorem explain_unbroken_of_count (found : field.count? line = some (.ok condition)) :
    (condition.explain field.name).Unbroken := by
  simp only [count?, Option.bind_eq_bind, Option.bind_eq_some_iff] at found
  obtain ⟨rest, stripped, ⟨sign, behind⟩, _, counted⟩ := found
  have named := stripCaseless?_unbroken _ line rest single stripped
  have whole : '\n' ∉ field.name := fun member => named (List.mem_append_left _ member)
  split at counted
  next =>
    unfold countOf at counted
    split at counted
    next => cases counted
    next relation _ =>
      split at counted
      next => cases counted
      next bound _ =>
        cases counted
        exact Condition.count_explain_unbroken field.name whole relation bound
  next => cases counted

theorem explain_unbroken_of_date (found : field.date? line = some (.ok condition)) :
    (condition.explain field.name).Unbroken := by
  simp only [date?, Option.bind_eq_bind, Option.bind_eq_some_iff] at found
  obtain ⟨rest, stripped, dated⟩ := found
  have named := stripCaseless?_unbroken _ line rest single stripped
  have whole : '\n' ∉ field.name := fun member => named (List.mem_append_left _ member)
  split at dated
  next read =>
    cases dated
    obtain ⟨relation, range, rfl⟩ := field.dateOf?_eq_latest _ condition read
    exact DateRelation.explain_unbroken field.name whole relation range
  next => cases dated

theorem explain_unbroken (found : field.read? line = some (.ok condition)) :
    (condition.explain field.name).Unbroken := by
  rcases Option.or_eq_some_iff.mp found with phrase | ⟨_, other⟩
  · obtain ⟨_, known, same⟩ := Option.map_eq_some_iff.mp phrase
    cases same
    exact field.explain_unbroken_of_phrase line single condition known
  · rcases Option.or_eq_some_iff.mp other with count | ⟨_, date⟩
    · exact field.explain_unbroken_of_count line single condition count
    · exact field.explain_unbroken_of_date line single condition date

end DateField

end TaskQuery
