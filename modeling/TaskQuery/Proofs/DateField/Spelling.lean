import TaskQuery.DateField.Basic
import TaskQuery.Proofs.Calendar.Spelling

set_option autoImplicit false

namespace TaskQuery

open Text

def Filter.lowered (filter : Filter) : Filter :=
  { filter with line := filter.line.asciiLower }

/-- A field that makes the same of a line in either case. What it complains of may quote the line. -/
structure Field.IgnoresCase (field : Field) : Prop where
  recognizes : ∀ line : Text, field.recognizes line.asciiLower = field.recognizes line
  compile : ∀ line : Text, (field.compile line.asciiLower).toOption =
    (field.compile line).toOption.map Filter.lowered

theorem countOf?_asciiLower (digits : Text) : countOf? (asciiLower digits) = countOf? digits := by
  apply read_asciiLower_of_unlettered countOf?
  intro digits count found
  rw [countOf?, Option.ite_none_right_eq_some] at found
  exact unlettered_of_isNumber found.1.1

theorem countSign?_asciiLower (cs : Text) :
    countSign? (asciiLower cs) = (countSign? cs).map (Prod.map asciiLower asciiLower) := by
  have front (n : Nat) : (asciiLower cs).take n = asciiLower (cs.take n) := by
    simp [asciiLower]
  simp only [countSign?, stripCaseless?_asciiLower, front, List.map_findSome?]
  congr 1
  funext entry
  simp [Function.comp_def]

theorem dateKeyword?_asciiLower (cs : Text) :
    dateKeyword? (asciiLower cs) = (dateKeyword? cs).map (Prod.map id asciiLower) := by
  simp only [dateKeyword?, stripCaseless?_asciiLower, List.map_findSome?]
  congr 1
  funext entry
  simp [Function.comp_def]

theorem dropSpace_asciiLower (cs : Text) : dropSpace (asciiLower cs) = asciiLower (dropSpace cs) := by
  cases cs with
  | nil => rfl
  | cons c cs =>
    by_cases space : c = ' '
    · subst space
      rfl
    · have small : c.toLower ≠ ' ' := by
        simpa [toLower_eq_space] using space
      simp [dropSpace, space, small]

namespace DateField

variable (field : DateField)

theorem phrase?_asciiLower (line : Text) : field.phrase? (asciiLower line) = field.phrase? line := by
  simp only [phrase?, Phrasebook.entry?, lower_asciiLower]

theorem toOption_countOf (sign digits : Text) :
    (field.countOf (asciiLower sign) (asciiLower digits)).toOption =
      (field.countOf sign digits).toOption := by
  simp only [countOf, CountRelation.ofSign?, asciiLower_asciiLower, countOf?_asciiLower]
  cases countSigns.lookup sign.asciiLower <;> rfl

-- An unknown operator is named as it is spelled, so only what a count comes to is the same.
theorem count?_asciiLower (line : Text) :
    (field.count? (asciiLower line)).map Except.toOption =
      (field.count? line).map Except.toOption := by
  have gap := dropWhile_asciiLower isBlank isBlank_toLower
  have digits := all_asciiLower isDecimalDigit isDecimalDigit_toLower
  simp only [count?, stripCaseless?_asciiLower, Option.bind_eq_bind]
  cases (field.name ++ " count").stripCaseless? line with
  | none => rfl
  | some rest =>
    simp only [Option.map_some, Option.bind_some, gap, countSign?_asciiLower]
    cases countSign? (rest.dropWhile isBlank) with
    | none => rfl
    | some found =>
      obtain ⟨sign, behind⟩ := found
      simp only [Option.map_some, Option.bind_some, Prod.map_apply, gap, digits, ne_eq,
        asciiLower_eq_nil]
      split
      next => simp [field.toOption_countOf]
      next => rfl

theorem dateOf?_asciiLower (cs : Text) : field.dateOf? (asciiLower cs) = field.dateOf? cs := by
  simp only [dateOf?, dateKeyword?_asciiLower]
  cases dateKeyword? cs with
  | none =>
    simp only [Option.map_none, DateRange.read?_asciiLower, day?, dropSpace_asciiLower,
      Date.read?_asciiLower]
  | some found =>
    obtain ⟨relation, rest⟩ := found
    simp only [Option.map_some, Prod.map_apply, id_eq, DateRange.read?_asciiLower, day?,
      dropSpace_asciiLower, Date.read?_asciiLower]

theorem date?_asciiLower (line : Text) : field.date? (asciiLower line) = field.date? line := by
  have single : ∀ c : Char, decide (c.toLower ≠ '\n') = decide (c ≠ '\n') := by
    intro c
    rw [decide_eq_decide, ne_eq, ne_eq, toLower_eq_sign c '\n' (by decide)]
  simp only [date?, stripCaseless?_asciiLower, Option.bind_eq_bind]
  cases (field.name ++ " ").stripCaseless? line with
  | none => rfl
  | some rest =>
    simp only [Option.map_some, Option.bind_some,
      takeWhile_asciiLower (fun c => decide (c ≠ '\n')) single, field.dateOf?_asciiLower]

theorem read?_asciiLower (line : Text) :
    (field.read? (asciiLower line)).map Except.toOption =
      (field.read? line).map Except.toOption := by
  simp only [read?, Option.map_or, phrase?_asciiLower, count?_asciiLower, date?_asciiLower]

theorem recognizes_asciiLower (line : Text) :
    field.recognizes (asciiLower line) = field.recognizes line := by
  have read := congrArg Option.isSome (field.read?_asciiLower line)
  simpa only [recognizes_eq, Option.isSome_map] using read

theorem toOption_compile (line : Text) :
    (field.compile line).toOption =
      ((field.read? line).map Except.toOption).bind fun condition? =>
        condition?.map fun condition =>
          ⟨line, field.accepts condition, condition.explain field.name⟩ := by
  unfold compile
  cases field.read? line with
  | none => rfl
  | some read => cases read <;> rfl

theorem ignoresCase : field.field.IgnoresCase := by
  refine ⟨field.recognizes_asciiLower, ?_⟩
  intro line
  change (field.compile (asciiLower line)).toOption =
    (field.compile line).toOption.map Filter.lowered
  rw [toOption_compile, toOption_compile, field.read?_asciiLower]
  simp [Option.map_bind, Function.comp_def, Filter.lowered]

end DateField
end TaskQuery
