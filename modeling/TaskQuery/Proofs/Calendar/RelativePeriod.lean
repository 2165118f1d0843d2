import TaskQuery.Proofs.Calendar.PeriodArithmetic
import TaskQuery.Proofs.Calendar.Reading

set_option autoImplicit false

namespace TaskQuery

def neighbourWords : List (Text × Int) :=
  [("last", -1), ("this", 0), ("next", 1)]

def unitWords : List (Text × CalendarUnit) :=
  [("week", .week), ("month", .month), ("quarter", .quarter), ("year", .year)]

/-- A text of two words that names the period `distance` away from today's, with letters in either
case and blanks anywhere. -/
def CalendarUnit.Spelled (unit : CalendarUnit) (distance : Int) (text : Text) : Prop :=
  ∃ first second, text.unspaced.asciiLower = first ++ second ∧
    (first, distance) ∈ neighbourWords ∧ (second, unit) ∈ unitWords

theorem CalendarUnit.spelled_of_words (unit : CalendarUnit) (distance : Int)
    (text first gap second : Text) (shape : text = first ++ gap ++ second)
    (neighbour : (first.asciiLower, distance) ∈ neighbourWords)
    (blank : gap.all isBlank = true) (name : (second.asciiLower, unit) ∈ unitWords) :
    unit.Spelled distance text := by
  have firstVisible : ∀ entry ∈ neighbourWords, Text.unspaced entry.1 = entry.1 := by
    simp only [neighbourWords, Text.ofString_eq]
    decide
  have secondVisible : ∀ entry ∈ unitWords, Text.unspaced entry.1 = entry.1 := by
    simp only [unitWords, Text.ofString_eq]
    decide
  refine ⟨first.asciiLower, second.asciiLower, ?_, neighbour, name⟩
  rw [shape, Text.unspaced_append, Text.unspaced_append, Text.unspaced_blanks gap blank,
    List.append_nil, Text.asciiLower_append, ← Text.unspaced_asciiLower,
    ← Text.unspaced_asciiLower, firstVisible _ neighbour, secondVisible _ name]

section Phrases

variable {first second : Text} {distance : Int} {unit : CalendarUnit}

theorem periodWord?_spelled (neighbour : (first, distance) ∈ neighbourWords)
    (name : (second, unit) ∈ unitWords) :
    periodWord? (first ++ second) = some (distance, second) := by
  have all : ∀ neighbour ∈ neighbourWords, ∀ name ∈ unitWords,
      periodWord? (neighbour.1 ++ name.1) = some (neighbour.2, name.1) := by
    simp only [neighbourWords, unitWords, periodWord?, periodWords, Text.ofString_eq]
    decide
  exact all (first, distance) neighbour (second, unit) name

theorem ofWord?_unitWord (name : (second, unit) ∈ unitWords) :
    CalendarUnit.ofWord? second = some unit := by
  have all : ∀ name ∈ unitWords, CalendarUnit.ofWord? name.1 = some name.2 := by
    simp [unitWords, CalendarUnit.ofWord?, CalendarUnit.all, CalendarUnit.word, Text.ofString_eq]
  exact all (second, unit) name

end Phrases

theorem relativePeriod?_spelled (today : Date) (unit : CalendarUnit) (distance : Int) (text : Text)
    (spelled : unit.Spelled distance text) :
    relativePeriod? today text = unit.period? (unit.index today + distance) := by
  obtain ⟨first, second, letters, neighbour, name⟩ := spelled
  rw [relativePeriod?, letters]
  simp only [periodWord?_spelled neighbour name, ofWord?_unitWord name, Option.bind_some,
    unit.range?_eq_period?]

theorem CalendarUnit.Spelled.relative {unit : CalendarUnit} {distance : Int} {text : Text}
    (spelled : unit.Spelled distance text) : text.SpellsRelative := by
  obtain ⟨first, second, letters, neighbour, name⟩ := spelled
  have word : first ∈ relativeWords :=
    List.mem_cons_of_mem _ (List.mem_map_of_mem (f := Prod.fst) neighbour)
  rw [CalendarUnit.ofWord?_eq_some second unit (ofWord?_unitWord name)] at letters
  exact ⟨first, word, unit, letters⟩

theorem CalendarUnit.Spelled.trim {unit : CalendarUnit} {distance : Int} {text : Text}
    (spelled : unit.Spelled distance text) : unit.Spelled distance text.trim := by
  simpa [Spelled] using spelled

theorem DateRange.read?_spelled (today : Date) (unit : CalendarUnit) (distance : Int) (text : Text)
    (spelled : unit.Spelled distance text) :
    DateRange.read? today text = unit.period? (unit.index today + distance) := by
  have relative := spelled.trim.relative
  have numbered : numberedPeriod? text.trim = none := by
    rw [Option.eq_none_iff_forall_ne_some]
    intro range found
    exact relative.not_opensWithDigit (numberedPeriod?_opensWithDigit text.trim range found)
  rw [DateRange.read?, relativePeriod?_spelled today unit distance text.trim spelled.trim, numbered,
    relative.not_explicit today]
  simp

theorem CalendarUnit.index_mono (unit : CalendarUnit) {date other : Date} (le : date ≤ other) :
    unit.index date ≤ unit.index other := by
  have numbers := (Date.number_le_iff date other).mpr le
  have month_ge := date.valid.month_ge
  have month_le := date.valid.month_le
  have other_ge := other.valid.month_ge
  have other_le := other.valid.month_le
  rw [Date.le_def, Date.lt_def] at le
  cases unit <;> simp only [index] <;> omega

theorem CalendarUnit.lt_of_index_lt (unit : CalendarUnit) {date other : Date}
    (less : unit.index date < unit.index other) : date < other := by
  rw [← not_le]
  intro le
  have := unit.index_mono le
  omega

/-- A text such as `last week` means a range exactly when its whole period lies in the calendar, and
the range holds exactly the days of that period. The ranges of neighbouring periods leave no gap. -/
theorem DateRange.relative_periods_tile_calendar (today : Date) (unit : CalendarUnit) :
    (∀ distance text, unit.Spelled distance text →
      ((∃ range, DateRange.read? today text = some range) ↔
        unit.Fits (unit.index today + distance)) ∧
      ∀ range, DateRange.read? today text = some range →
        ∀ date, date ∈ range ↔ unit.index date = unit.index today + distance) ∧
    (∀ text range, unit.Spelled 0 text → DateRange.read? today text = some range →
      today ∈ range) ∧
    ∀ near far nearText farText earlier later,
      unit.Spelled near nearText → DateRange.read? today nearText = some earlier →
      unit.Spelled far farText → DateRange.read? today farText = some later → near < far →
      (∀ date ∈ earlier, ∀ other ∈ later, date < other) ∧
        (far = near + 1 → ∀ date, earlier.first ≤ date → date ≤ later.last →
          date ∈ earlier ∨ date ∈ later) := by
  have days : ∀ distance text range, unit.Spelled distance text →
      DateRange.read? today text = some range →
      ∀ date, date ∈ range ↔ unit.index date = unit.index today + distance := by
    intro distance text range spelled found
    rw [DateRange.read?_spelled today unit distance text spelled] at found
    exact unit.mem_period? _ range found
  refine ⟨?_, ?_, ?_⟩
  · intro distance text spelled
    refine ⟨?_, fun range found => days distance text range spelled found⟩
    rw [DateRange.read?_spelled today unit distance text spelled]
    exact unit.exists_period? _
  · intro text range spelled found
    rw [days 0 text range spelled found, Int.add_zero]
  · intro near far nearText farText earlier later nearSpelled nearFound farSpelled farFound less
    have nearDays := days near nearText earlier nearSpelled nearFound
    have farDays := days far farText later farSpelled farFound
    constructor
    · intro date inEarlier other inLater
      rw [nearDays] at inEarlier
      rw [farDays] at inLater
      exact unit.lt_of_index_lt (by omega)
    · intro next date start stop
      have first := (nearDays earlier.first).mp ⟨le_rfl, earlier.ordered⟩
      have last := (farDays later.last).mp ⟨later.ordered, le_rfl⟩
      have lower := unit.index_mono start
      have upper := unit.index_mono stop
      rw [nearDays, farDays]
      omega

def midMarch : Date :=
  ⟨2024, 3, 13, by decide⟩

theorem weeks_of_midMarch :
    CalendarUnit.week.Spelled (-1) "Last \tWEEK" ∧ CalendarUnit.week.Spelled 0 "thisweek" ∧
      ∃ earlier later,
        DateRange.read? midMarch "Last \tWEEK" = some earlier ∧
        DateRange.read? midMarch "thisweek" = some later ∧
        (∀ date, date ∈ earlier ↔ CalendarUnit.week.index date = 105564) ∧
        midMarch ∈ later ∧ ∀ date ∈ earlier, ∀ other ∈ later, date < other := by
  have lastWeek : CalendarUnit.week.Spelled (-1) "Last \tWEEK" :=
    CalendarUnit.spelled_of_words _ _ _ "Last" " \t" "WEEK" (by simp [Text.ofString_eq])
      (by simp [neighbourWords, Text.asciiLower, Text.ofString_eq])
      (by rw [Text.ofString_eq]; decide) (by simp [unitWords, Text.asciiLower, Text.ofString_eq])
  have thisWeek : CalendarUnit.week.Spelled 0 "thisweek" :=
    CalendarUnit.spelled_of_words _ _ _ "this" [] "week" (by simp [Text.ofString_eq])
      (by simp [neighbourWords, Text.asciiLower, Text.ofString_eq]) rfl
      (by simp [unitWords, Text.asciiLower, Text.ofString_eq])
  have index : CalendarUnit.week.index midMarch = 105565 := by decide
  have start : daysBeforeYear (-9999) = -3652425 := by decide
  have stop : daysBeforeYear 10000 = 3652059 := by decide
  obtain ⟨exact, contains, apart⟩ := DateRange.relative_periods_tile_calendar midMarch .week
  have earlierFits : CalendarUnit.week.Fits (CalendarUnit.week.index midMarch + -1) := by
    rw [fits_week_iff]
    omega
  have laterFits : CalendarUnit.week.Fits (CalendarUnit.week.index midMarch + 0) := by
    rw [fits_week_iff]
    omega
  obtain ⟨earlier, earlierFound⟩ := (exact _ _ lastWeek).1.mpr earlierFits
  obtain ⟨later, laterFound⟩ := (exact _ _ thisWeek).1.mpr laterFits
  refine ⟨lastWeek, thisWeek, earlier, later, earlierFound, laterFound, ?_, ?_, ?_⟩
  · intro date
    rw [(exact _ _ lastWeek).2 earlier earlierFound date, index]
    omega
  · exact contains _ later thisWeek laterFound
  · exact (apart _ _ _ _ _ _ lastWeek earlierFound thisWeek laterFound (by decide)).1

end TaskQuery
