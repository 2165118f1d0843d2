import TaskQuery.Proofs.Calendar.PeriodArithmetic
import TaskQuery.Proofs.Calendar.Reading

set_option autoImplicit false

namespace TaskQuery

inductive NumberedPeriod where
  | yearOf (year : Nat)
  | monthOf (year month : Nat)
  | weekOf (year week : Nat)
  | quarterOf (year quarter : Nat)

-- A week belongs to the year that its Thursday lies in; the Thursdays of a year count its weeks.
def GregorianDay.InWeek (day : GregorianDay) (year : Int) (week : Nat) : Prop :=
  ∃ thursday : GregorianDay, thursday.number / 7 = day.number / 7 ∧ thursday.number % 7 = 3 ∧
    thursday.year = year ∧ (week : Int) = (thursday.number - daysBeforeYear year) / 7 + 1

-- A year of 53 weeks has 53 Thursdays: it starts on one, or it leaps and starts the day before one.
def LongYear (year : Int) : Prop :=
  daysBeforeYear year % 7 = 3 ∨ daysBeforeYear year % 7 = 2 ∧ Leap year

instance (year : Int) : Decidable (LongYear year) :=
  inferInstanceAs (Decidable (_ ∨ _))

def NumberedPeriod.Holds : NumberedPeriod → GregorianDay → Prop
  | .yearOf year, day => day.year = year
  | .monthOf year month, day => day.year = year ∧ day.month = month
  | .weekOf year week, day => day.InWeek year week
  | .quarterOf year quarter, day => day.year = year ∧ (day.month - 1) / 3 + 1 = quarter

def NumberedPeriod.Exists : NumberedPeriod → Prop
  | .yearOf _ => True
  | .monthOf _ month => 1 ≤ month ∧ month ≤ 12
  | .weekOf year week => 1 ≤ week ∧ week ≤ if LongYear year then 53 else 52
  | .quarterOf _ quarter => 1 ≤ quarter ∧ quarter ≤ 4

def Text.IsYear (digits : Text) : Prop :=
  digits.isNumber = true ∧ digits.length = 4

/-- The spellings of a period: a year of four digits, alone or with a month or a week of one or two
digits or the digit of a quarter. -/
inductive NumberedPeriod.Written : NumberedPeriod → Text → Prop where
  | yearOf (year : Text) (four : year.IsYear) : Written (.yearOf year.value) year
  | monthOf (year month : Text) (four : year.IsYear) (number : month.isNumber = true)
    (short : month.length ≤ 2) :
    Written (.monthOf year.value month.value) (year ++ '-' :: month)
  | weekOf (year week : Text) (letter : Char) (four : year.IsYear)
    (either : letter = 'W' ∨ letter = 'w') (number : week.isNumber = true)
    (short : week.length ≤ 2) :
    Written (.weekOf year.value week.value) (year ++ '-' :: letter :: week)
  | quarterOf (year : Text) (letter quarter : Char) (four : year.IsYear)
    (either : letter = 'Q' ∨ letter = 'q') (ge : '1' ≤ quarter) (le : quarter ≤ '4') :
    Written (.quarterOf year.value (digitValue quarter)) (year ++ ['-', letter, quarter])

theorem GregorianDay.year_eq_iff (day : GregorianDay) (year : Int) :
    day.year = year ↔
      daysBeforeYear year ≤ day.number ∧ day.number < daysBeforeYear (year + 1) := by
  constructor
  · rintro rfl
    exact day.number_bounds
  · intro ⟨lower, upper⟩
    rw [← yearOfNumber_eq day.year day.number day.number_bounds.1 day.number_bounds.2,
      yearOfNumber_eq year day.number lower upper]

theorem GregorianDay.inWeek_iff (day : GregorianDay) (year : Int) (week : Nat) :
    day.InWeek year week ↔
      (1 ≤ week ∧ openingWeek year + week ≤ openingWeek (year + 1)) ∧
        CalendarUnit.week.indexOf day = openingWeek year + (week - 1) := by
  simp only [InWeek, GregorianDay.year_eq_iff, CalendarUnit.indexOf, openingWeek]
  constructor
  · rintro ⟨thursday, sameWeek, weekday, inYear, counted⟩
    omega
  · rintro ⟨inYear, index⟩
    obtain ⟨thursday, number⟩ := GregorianDay.exists_number (7 * (day.number / 7) + 3)
    exact ⟨thursday, by omega, by omega, by omega, by omega⟩

theorem openingWeek_succ (year : Int) :
    openingWeek (year + 1) = openingWeek year + if LongYear year then 53 else 52 := by
  unfold openingWeek LongYear
  rw [daysBeforeYear_succ]
  by_cases leap : Leap year <;>
    simp only [leap, if_true, if_false, and_true, and_false, or_false] <;> split <;> omega

theorem CalendarUnit.exists_day (unit : CalendarUnit) (index : Int) :
    ∃ day : GregorianDay, unit.indexOf day = index := by
  cases bounds : unit.monthBounds? index with
  | none =>
    obtain ⟨monday, number⟩ := GregorianDay.exists_number (7 * index)
    rw [unit.eq_week index bounds]
    exact ⟨monday, by simp [indexOf, number]⟩
  | some pair =>
    obtain ⟨first, last⟩ := pair
    have ordered := unit.monthBounds?_le index first last bounds
    refine ⟨GregorianDay.ofMonths first, ?_⟩
    rw [unit.indexOf_eq_iff index first last bounds, GregorianDay.months_ofMonths]
    exact ⟨Int.le_refl _, ordered⟩

theorem openingWeek_add_le (year : Int) (week : Nat) :
    openingWeek year + week ≤ openingWeek (year + 1) ↔
      week ≤ if LongYear year then 53 else 52 := by
  rw [openingWeek_succ]
  split <;> omega

namespace NumberedPeriod

instance (period : NumberedPeriod) : Decidable period.Exists :=
  match period with
  | .yearOf _ => inferInstanceAs (Decidable True)
  | .monthOf _ _ | .weekOf _ _ | .quarterOf _ _ => inferInstanceAs (Decidable (_ ∧ _))

def unit : NumberedPeriod → CalendarUnit
  | .yearOf _ => .year
  | .monthOf _ _ => .month
  | .weekOf _ _ => .week
  | .quarterOf _ _ => .quarter

def index : NumberedPeriod → Int
  | .yearOf year => year
  | .monthOf year month => 12 * year + (month - 1)
  | .weekOf year week => openingWeek year + (week - 1)
  | .quarterOf year quarter => 4 * year + (quarter - 1)

variable (period : NumberedPeriod)

theorem holds_iff (day : GregorianDay) :
    period.Holds day ↔ period.Exists ∧ period.unit.indexOf day = period.index := by
  have ge := day.month_ge
  have le := day.month_le
  cases period with
  | yearOf year => simp [Holds, Exists, unit, index, CalendarUnit.indexOf]
  | monthOf year month =>
    simp only [Holds, Exists, unit, index, CalendarUnit.indexOf, GregorianDay.months]
    omega
  | weekOf year week =>
    simp only [Holds, Exists, unit, index, GregorianDay.inWeek_iff, openingWeek_add_le]
  | quarterOf year quarter =>
    simp only [Holds, Exists, unit, index, CalendarUnit.indexOf]
    omega

theorem exists_iff : period.Exists ↔ ∃ day, period.Holds day := by
  simp only [holds_iff, exists_and_left, iff_self_and]
  intro _
  exact period.unit.exists_day period.index

def range? : Option DateRange :=
  if period.Exists then period.unit.period? period.index else none

theorem exists_range? :
    (∃ range, period.range? = some range) ↔
      period.Exists ∧ ∀ day, period.Holds day → day.OnCalendar := by
  by_cases real : period.Exists
  · simp only [range?, real, if_true, true_and, CalendarUnit.exists_period?, CalendarUnit.Fits,
      holds_iff]
  · simp [range?, real]

theorem mem_range? (range : DateRange) (found : period.range? = some range) (date : Date) :
    date ∈ range ↔ period.Holds date.gregorian := by
  by_cases real : period.Exists
  · rw [range?, if_pos real] at found
    rw [period.unit.mem_period? period.index range found, holds_iff,
      CalendarUnit.index_eq_indexOf]
    simp [real]
  · simp [range?, real] at found

end NumberedPeriod

theorem weekOfYear?_eq_range? (year week : Nat) :
    weekOfYear? year week = (NumberedPeriod.weekOf year week).range? := by
  simp only [weekOfYear?_eq_period?, openingWeek_add_le, NumberedPeriod.range?, NumberedPeriod.unit,
    NumberedPeriod.index]
  exact if_congr Iff.rfl rfl rfl

theorem oneOrTwoDigits?_number (digits : Text) (number : digits.isNumber = true)
    (short : digits.length ≤ 2) : oneOrTwoDigits? digits = some digits.value := by
  simp [oneOrTwoDigits?, number, short]

theorem numberedPeriod?_month (year month : Text) (four : year.IsYear)
    (number : month.isNumber = true) (short : month.length ≤ 2) :
    numberedPeriod? (year ++ '-' :: month) =
      (NumberedPeriod.monthOf year.value month.value).range? := by
  have read := Text.digits?_append year ('-' :: month) four.1
  rw [four.2] at read
  have value := oneOrTwoDigits?_number month number short
  have digits : ∀ c ∈ month, c.isDigit = true := by
    simp only [Text.isNumber, Bool.and_eq_true, List.all_eq_true] at number
    exact number.2
  simp only [numberedPeriod?, read, Option.bind_eq_bind, Option.bind_some]
  -- No letter of a quarter or a week is a digit.
  split
  next same => cases same
  next same =>
    cases same
    exact absurd (digits 'Q' (by simp)) (by decide)
  next same =>
    cases same
    exact absurd (digits 'q' (by simp)) (by decide)
  next same =>
    cases same
    exact absurd (digits 'W' (by simp)) (by decide)
  next same =>
    cases same
    exact absurd (digits 'w' (by simp)) (by decide)
  next same =>
    cases same
    rw [value, Option.bind_some, monthOfYear?_eq_period?]
    rfl
  next refused => exact absurd rfl (refused month)

theorem numberedPeriod?_week (year week : Text) (letter : Char) (four : year.IsYear)
    (either : letter = 'W' ∨ letter = 'w') (number : week.isNumber = true)
    (short : week.length ≤ 2) :
    numberedPeriod? (year ++ '-' :: letter :: week) =
      (NumberedPeriod.weekOf year.value week.value).range? := by
  have read := Text.digits?_append year ('-' :: letter :: week) four.1
  rw [four.2] at read
  have value := oneOrTwoDigits?_number week number short
  rcases either with rfl | rfl <;> simp [numberedPeriod?, read, value, weekOfYear?_eq_range?]

theorem numberedPeriod?_quarter (year : Text) (letter quarter : Char) (four : year.IsYear)
    (either : letter = 'Q' ∨ letter = 'q') (ge : '1' ≤ quarter) (le : quarter ≤ '4') :
    numberedPeriod? (year ++ ['-', letter, quarter]) =
      (NumberedPeriod.quarterOf year.value (digitValue quarter)).range? := by
  have read := Text.digits?_append year ['-', letter, quarter] four.1
  rw [four.2] at read
  have real : 1 ≤ digitValue quarter ∧ digitValue quarter ≤ 4 := by
    have low : 49 ≤ quarter.toNat := ge
    have high : quarter.toNat ≤ 52 := le
    simp only [digitValue, Char.reduceToNat]
    omega
  rcases either with rfl | rfl <;>
    simp [numberedPeriod?, read, ge, le, real, quarterOfYear?_eq_period?, NumberedPeriod.range?,
      NumberedPeriod.Exists, NumberedPeriod.unit, NumberedPeriod.index]

theorem numberedPeriod?_written (period : NumberedPeriod) (text : Text)
    (written : period.Written text) : numberedPeriod? text = period.range? := by
  cases written with
  | yearOf year four =>
    have read := Text.digits?_append text [] four.1
    rw [List.append_nil, four.2] at read
    simp [numberedPeriod?, read, yearRange?_eq_period?, NumberedPeriod.range?,
      NumberedPeriod.Exists, NumberedPeriod.unit, NumberedPeriod.index]
  | monthOf year month four number short => exact numberedPeriod?_month year month four number short
  | weekOf year week letter four either number short =>
    exact numberedPeriod?_week year week letter four either number short
  | quarterOf year letter quarter four either ge le =>
    exact numberedPeriod?_quarter year letter quarter four either ge le

theorem oneOrTwoDigits?_eq_some (digits : Text) (n : Nat)
    (found : oneOrTwoDigits? digits = some n) :
    digits.isNumber = true ∧ digits.length ≤ 2 ∧ n = digits.value := by
  simp only [oneOrTwoDigits?, Option.ite_none_right_eq_some, Option.some.injEq, Bool.and_eq_true,
    decide_eq_true_eq] at found
  exact ⟨found.1.1, found.1.2, found.2.symm⟩

theorem exists_written (cs : Text) (range : DateRange) (found : numberedPeriod? cs = some range) :
    ∃ period : NumberedPeriod, period.Written cs := by
  simp only [numberedPeriod?, Option.bind_eq_bind, Option.bind_eq_some_iff] at found
  obtain ⟨⟨n, rest⟩, read, period⟩ := found
  obtain ⟨year, rfl, length, digits, rfl⟩ := Text.digits?_eq_some 4 cs rest n read
  have four : year.IsYear := by
    refine ⟨?_, length⟩
    simp only [Text.isNumber, Bool.and_eq_true, decide_eq_true_eq, List.all_eq_true]
    exact ⟨List.ne_nil_of_length_eq_add_one length, digits⟩
  dsimp only at period
  split at period
  next => exact ⟨_, by simpa using NumberedPeriod.Written.yearOf year four⟩
  next quarter =>
    rw [Option.ite_none_right_eq_some] at period
    exact ⟨_, .quarterOf year 'Q' quarter four (.inl rfl) period.1.1 period.1.2⟩
  next quarter =>
    rw [Option.ite_none_right_eq_some] at period
    exact ⟨_, .quarterOf year 'q' quarter four (.inr rfl) period.1.1 period.1.2⟩
  next week =>
    obtain ⟨n, number, _⟩ := Option.bind_eq_some_iff.mp period
    obtain ⟨number, short, _⟩ := oneOrTwoDigits?_eq_some week n number
    exact ⟨_, .weekOf year week 'W' four (.inl rfl) number short⟩
  next week =>
    obtain ⟨n, number, _⟩ := Option.bind_eq_some_iff.mp period
    obtain ⟨number, short, _⟩ := oneOrTwoDigits?_eq_some week n number
    exact ⟨_, .weekOf year week 'w' four (.inr rfl) number short⟩
  next month _ _ _ _ =>
    obtain ⟨n, number, _⟩ := Option.bind_eq_some_iff.mp period
    obtain ⟨number, short, _⟩ := oneOrTwoDigits?_eq_some month n number
    exact ⟨_, .monthOf year month four number short⟩
  next => cases period

theorem visible_of_isDigit (c : Char) (digit : c.isDigit = true) : isBlank c = false ∧ c ≠ '.' := by
  refine ⟨isBlank_of_isDigit c digit, ?_⟩
  rintro rfl
  cases digit

theorem visible_of_isNumber (digits : Text) (number : digits.isNumber = true) :
    ∀ c ∈ digits, isBlank c = false ∧ c ≠ '.' := by
  simp only [Text.isNumber, Bool.and_eq_true, List.all_eq_true] at number
  exact fun c member => visible_of_isDigit c (number.2 c member)

theorem Text.opensWithDigit_number (digits rest : Text) (number : digits.isNumber = true) :
    (digits ++ rest).OpensWithDigit := by
  cases digits with
  | nil => simp [isNumber] at number
  | cons c digits =>
    simp only [isNumber, List.all_cons, Bool.and_eq_true] at number
    exact opensWithDigit_cons c _ number.2.1

theorem isDigit_of_quarter (c : Char) (ge : '1' ≤ c) (le : c ≤ '4') : c.isDigit = true := by
  have low : 49 ≤ c.toNat := ge
  have high : c.toNat ≤ 52 := le
  simp only [Char.isDigit, Bool.and_eq_true, decide_eq_true_eq]
  exact ⟨(by omega : 48 ≤ c.toNat), (by omega : c.toNat ≤ 57)⟩

theorem NumberedPeriod.Written.visible {period : NumberedPeriod} {text : Text}
    (written : period.Written text) :
    text.OpensWithDigit ∧ ∀ c ∈ text, isBlank c = false ∧ c ≠ '.' := by
  have front (year rest : Text) (four : year.IsYear)
      (visible : ∀ c ∈ rest, isBlank c = false ∧ c ≠ '.') :
      (year ++ rest).OpensWithDigit ∧ ∀ c ∈ year ++ rest, isBlank c = false ∧ c ≠ '.' :=
    ⟨Text.opensWithDigit_number year rest four.1,
      List.forall_mem_append.mpr ⟨visible_of_isNumber year four.1, visible⟩⟩
  have hyphen : isBlank '-' = false ∧ '-' ≠ '.' := by decide
  cases written with
  | yearOf year four => simpa using front text [] four (by simp)
  | monthOf year month four number short =>
    exact front year _ four (List.forall_mem_cons.mpr ⟨hyphen, visible_of_isNumber month number⟩)
  | weekOf year week letter four either number short =>
    refine front year _ four (List.forall_mem_cons.mpr
      ⟨hyphen, List.forall_mem_cons.mpr ⟨?_, visible_of_isNumber week number⟩⟩)
    rcases either with rfl | rfl <;> decide
  | quarterOf year letter quarter four either ge le =>
    have digit := isDigit_of_quarter quarter ge le
    refine front year _ four (List.forall_mem_cons.mpr
      ⟨hyphen, List.forall_mem_cons.mpr ⟨?_, by simpa using visible_of_isDigit quarter digit⟩⟩)
    rcases either with rfl | rfl <;> decide

theorem NumberedPeriod.Written.endsWithDigit {period : NumberedPeriod} {text : Text}
    (written : period.Written text) : text.EndsWithDigit := by
  have ends (digits : Text) (number : digits.isNumber = true) : digits.EndsWithDigit := by
    simp only [Text.isNumber, Bool.and_eq_true, decide_eq_true_eq, List.all_eq_true] at number
    exact Text.endsWithDigit_digits digits number.1 number.2
  cases written with
  | yearOf year four => exact ends text four.1
  | monthOf year month four number short =>
    exact (ends month number).of_suffix ((List.suffix_cons _ _).trans (List.suffix_append _ _))
  | weekOf year week letter four either number short =>
    exact (ends week number).of_suffix
      ((List.suffix_append ['-', letter] week).trans (List.suffix_append _ _))
  | quarterOf year letter quarter four either ge le =>
    have digit : Text.EndsWithDigit [quarter] :=
      Text.endsWithDigit_digits [quarter] (List.cons_ne_nil _ _)
        (by simpa using isDigit_of_quarter quarter ge le)
    exact digit.of_suffix
      ((List.suffix_append ['-', letter] [quarter]).trans (List.suffix_append _ _))

theorem DateRange.read?_written (today : Date) (period : NumberedPeriod) (text : Text)
    (written : period.Written text) : DateRange.read? today text = period.range? := by
  obtain ⟨digit, visible⟩ := written.visible
  have whole : text.trim = text := Text.trim_visible text fun c member => (visible c member).1
  have explicit : explicitRange? today text = none := by
    simp [explicitRange?, splitRange?_visible text visible]
  rw [DateRange.read?, whole, relativePeriod?_of_opensWithDigit today text digit, explicit,
    numberedPeriod?_written period text written]
  simp

/-- A text such as `2024-W05` means a range exactly when the period that it names is one of its year
and lies in the calendar as a whole, and the range holds exactly the days of that period. -/
theorem DateRange.numbered_periods_hold_their_days (today : Date) (period : NumberedPeriod)
    (text : Text) (written : period.Written text) :
    ((∃ range, DateRange.read? today text = some range) ↔
      period.Exists ∧ ∀ day, period.Holds day → day.OnCalendar) ∧
    (∀ range, DateRange.read? today text = some range →
      ∀ date, date ∈ range ↔ period.Holds date.gregorian) ∧
    (period.Exists ↔ ∃ day, period.Holds day) := by
  rw [DateRange.read?_written today period text written]
  exact ⟨period.exists_range?, period.mem_range?, period.exists_iff⟩

theorem lastWeek_of_longYear :
    (NumberedPeriod.weekOf 2020 53).Written "2020-w53" ∧
      ∃ range, DateRange.read? ⟨2024, 3, 13, by decide⟩ "2020-w53" = some range ∧
        ∀ date, date ∈ range ↔ date.gregorian.InWeek 2020 53 := by
  have written : (NumberedPeriod.weekOf 2020 53).Written "2020-w53" := by
    have text : ("2020-w53" : Text) = Text.ofString "2020" ++ '-' :: 'w' :: Text.ofString "53" := by
      simp [Text.ofString_eq]
    have year : (2020 : Nat) = Text.value "2020" := by
      rw [Text.ofString_eq]
      decide
    have week : (53 : Nat) = Text.value "53" := by
      rw [Text.ofString_eq]
      decide
    rw [text, year, week]
    refine .weekOf "2020" "53" 'w' ⟨?_, ?_⟩ (.inr rfl) ?_ ?_ <;> rw [Text.ofString_eq] <;> decide
  have real : (NumberedPeriod.weekOf 2020 53).Exists := by decide
  have fits : ∀ day, (NumberedPeriod.weekOf 2020 53).Holds day → day.OnCalendar := by
    intro day holds
    have index := ((NumberedPeriod.weekOf 2020 53).holds_iff day).mp holds
    exact (fits_week_iff _).mpr ⟨by decide, by decide⟩ day index.2
  obtain ⟨read, days, _⟩ := DateRange.numbered_periods_hold_their_days ⟨2024, 3, 13, by decide⟩
    (.weekOf 2020 53) "2020-w53" written
  obtain ⟨range, found⟩ := read.mpr ⟨real, fits⟩
  exact ⟨written, range, found, days range found⟩

end TaskQuery
