import TaskQuery.Proofs.Calendar.Period

set_option autoImplicit false

namespace TaskQuery

theorem firstOfMonth?_eq_some (index : Int) (date : Date) :
    firstOfMonth? index = some date ↔ date.day = 1 ∧ CalendarUnit.month.index date = index := by
  have ge := date.valid.month_ge
  have le := date.valid.month_le
  rw [firstOfMonth?, Date.of?_eq_some, CalendarUnit.index]
  constructor
  · intro shape
    exact ⟨shape.2.2, by omega⟩
  · intro shape
    exact ⟨by omega, by omega, shape.1⟩

theorem lastOfMonth?_index (date : Date) :
    lastOfMonth? (CalendarUnit.month.index date) = some date.lastOfMonth := by
  have ge := date.valid.month_ge
  have le := date.valid.month_le
  have year : CalendarUnit.month.index date / 12 = date.year := by
    rw [CalendarUnit.index]
    omega
  have month : (CalendarUnit.month.index date % 12 + 1).toNat = date.month := by
    rw [CalendarUnit.index]
    omega
  rw [lastOfMonth?, year, month, Date.of?_eq_some]
  exact ⟨rfl, rfl, rfl⟩

theorem Date.plusMonths?_of_first {date : Date} (first : date.day = 1) (months : Int) :
    date.plusMonths? months = firstOfMonth? (CalendarUnit.month.index date + months) := by
  rw [plusMonths?, first, Nat.min_eq_left (monthLength_pos _ _)]
  rfl

theorem of?_eq_firstOfMonth? (year : Int) (month : Nat) (ge : 1 ≤ month) (le : month ≤ 12) :
    Date.of? year month 1 = firstOfMonth? (12 * year + (month - 1)) := by
  rw [firstOfMonth?]
  congr 1 <;> omega

theorem of?_of_month (year : Int) (month day : Nat) (other : ¬ (1 ≤ month ∧ month ≤ 12)) :
    Date.of? year month day = none := by
  rw [Date.of?, dif_neg]
  intro valid
  exact other ⟨valid.month_ge, valid.month_le⟩

theorem lastOfMonth?_eq_map (index : Int) :
    lastOfMonth? index = (firstOfMonth? index).map Date.lastOfMonth := by
  cases found : firstOfMonth? index with
  | none =>
    rw [Option.map_none, Option.eq_none_iff_forall_ne_some]
    intro date last
    have inside := (exists_lastOfMonth? index).mp ⟨date, last⟩
    obtain ⟨start, first⟩ := (exists_firstOfMonth? index).mpr inside
    rw [found] at first
    cases first
  | some start =>
    have same := ((firstOfMonth?_eq_some index start).mp found).2
    rw [← same, lastOfMonth?_index]
    rfl

section

variable (today : Date) (distance : Int)

theorem weekRange?_eq_period? :
    weekRange? today distance =
      CalendarUnit.week.period? (CalendarUnit.week.index today + distance) := by
  -- The weekday of today is what its number has over the start of its week.
  have monday : today.plusDays? (distance * 7 - today.weekday) =
      Date.ofNumber? (7 * (CalendarUnit.week.index today + distance)) := by
    rw [Date.plusDays?, Date.weekday, CalendarUnit.index]
    congr 1
    omega
  rw [weekRange?, monday, CalendarUnit.period?]
  cases found : Date.ofNumber? (7 * (CalendarUnit.week.index today + distance)) with
  | none => rfl
  | some start => simp [Date.plusDays?, (Date.ofNumber?_eq_some _ start).mp found]

theorem monthRange?_eq_period? :
    monthRange? today distance =
      CalendarUnit.month.period? (CalendarUnit.month.index today + distance) := by
  have start : today.firstOfMonth.plusMonths? distance =
      firstOfMonth? (CalendarUnit.month.index today + distance) :=
    Date.plusMonths?_of_first rfl distance
  rw [monthRange?, start, CalendarUnit.period?, lastOfMonth?_eq_map]
  cases firstOfMonth? (CalendarUnit.month.index today + distance) <;> rfl

theorem quarterRange?_eq_period? :
    quarterRange? today distance =
      CalendarUnit.quarter.period? (CalendarUnit.quarter.index today + distance) := by
  have ge := today.valid.month_ge
  have le := today.valid.month_le
  have opening : Date.of? today.year ((today.month - 1) / 3 * 3 + 1) 1 =
      firstOfMonth? (3 * CalendarUnit.quarter.index today) := by
    rw [of?_eq_firstOfMonth? _ _ (by omega) (by omega), CalendarUnit.index]
    congr 1
    omega
  have inside := today.gregorian_onCalendar
  obtain ⟨first, found⟩ := (exists_firstOfMonth? (3 * CalendarUnit.quarter.index today)).mpr (by
    simp only [GregorianDay.OnCalendar, Date.gregorian] at inside
    rw [CalendarUnit.index]
    omega)
  obtain ⟨day, index⟩ := (firstOfMonth?_eq_some _ first).mp found
  have start : first.plusMonths? (distance * 3) =
      firstOfMonth? (3 * (CalendarUnit.quarter.index today + distance)) := by
    rw [Date.plusMonths?_of_first day, index]
    congr 1
    omega
  rw [quarterRange?, opening, found, CalendarUnit.period?, lastOfMonth?_eq_map]
  simp only [Option.bind_eq_bind, Option.bind_some, start]
  cases reached : firstOfMonth? (3 * (CalendarUnit.quarter.index today + distance)) with
  | none => rfl
  | some start =>
    obtain ⟨day, index⟩ := (firstOfMonth?_eq_some _ start).mp reached
    rw [Option.bind_some, Date.plusMonths?_of_first day, index]
    simp only [Option.pure_def, Option.bind_map]
    rfl

theorem yearRange?_eq_period? (year : Int) :
    yearRange? year = CalendarUnit.year.period? year := by
  have first : Date.of? year 1 1 = firstOfMonth? (12 * year) := by
    rw [of?_eq_firstOfMonth? year 1 (by decide) (by decide)]
    simp
  have last : Date.of? year 12 31 = lastOfMonth? (12 * year + 11) := by
    have front : (12 * year + 11) / 12 = year := by omega
    have behind : ((12 * year + 11) % 12 + 1).toNat = 12 := by omega
    rw [lastOfMonth?, front, behind]
    rfl
  rw [yearRange?, first, last, CalendarUnit.period?]

/-- The four ways to reach a period from today come to one rule: the period whose number lies
`distance` away from that of today's. -/
theorem CalendarUnit.range?_eq_period? (unit : CalendarUnit) :
    unit.range? today distance = unit.period? (unit.index today + distance) := by
  cases unit with
  | week => exact weekRange?_eq_period? today distance
  | month => exact monthRange?_eq_period? today distance
  | quarter => exact quarterRange?_eq_period? today distance
  | year => exact yearRange?_eq_period? (today.year + distance)

end

theorem monthOfYear?_eq_period? (year : Int) (month : Nat) :
    monthOfYear? year month =
      if 1 ≤ month ∧ month ≤ 12 then CalendarUnit.month.period? (12 * year + (month - 1))
      else none := by
  split
  next real =>
    rw [monthOfYear?, of?_eq_firstOfMonth? year month real.1 real.2, CalendarUnit.period?,
      lastOfMonth?_eq_map]
    cases firstOfMonth? (12 * year + (month - 1)) <;> rfl
  next other => rw [monthOfYear?, of?_of_month year month 1 other]; rfl

theorem quarterOfYear?_eq_period? (year : Int) (quarter : Nat) (ge : 1 ≤ quarter)
    (le : quarter ≤ 4) :
    quarterOfYear? year quarter = CalendarUnit.quarter.period? (4 * year + (quarter - 1)) := by
  have first : Date.of? year ((quarter - 1) * 3 + 1) 1 =
      firstOfMonth? (3 * (4 * year + (quarter - 1))) := by
    rw [of?_eq_firstOfMonth? _ _ (by omega) (by omega)]
    congr 1
    omega
  have last : Date.of? year (quarter * 3) 1 =
      firstOfMonth? (3 * (4 * year + (quarter - 1)) + 2) := by
    rw [of?_eq_firstOfMonth? _ _ (by omega) (by omega)]
    congr 1
    omega
  rw [quarterOfYear?, CalendarUnit.period?, lastOfMonth?_eq_map, ← first, ← last]
  cases found : Date.of? year ((quarter - 1) * 3 + 1) 1 with
  | none => rfl
  | some start =>
    have same := ((Date.of?_eq_some _ _ _ _).mp found).1
    simp only [Option.bind_eq_bind, Option.bind_some, same, Option.bind_map]
    rfl

theorem weekOfYear?_eq_period? (year : Int) (week : Nat) :
    weekOfYear? year week =
      if 1 ≤ week ∧ openingWeek year + week ≤ openingWeek (year + 1) then
        CalendarUnit.week.period? (openingWeek year + (week - 1))
      else none := by
  unfold weekOfYear? Date.ofWeek?
  split
  next => simp [CalendarUnit.period?]
  next => rfl

end TaskQuery
