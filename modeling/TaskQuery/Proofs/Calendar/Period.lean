import TaskQuery.Calendar.Period
import TaskQuery.Proofs.Calendar.Order

set_option autoImplicit false

namespace TaskQuery

def CalendarUnit.index : CalendarUnit → Date → Int
  | .week, date => date.number / 7
  | .month, date => 12 * date.year + (date.month - 1)
  | .quarter, date => 4 * date.year + (date.month - 1) / 3
  | .year, date => date.year

def firstOfMonth? (index : Int) : Option Date :=
  Date.of? (index / 12) (index % 12 + 1).toNat 1

def lastOfMonth? (index : Int) : Option Date :=
  let year := index / 12
  let month := (index % 12 + 1).toNat
  Date.of? year month (monthLength year month)

/-- The period with a number, when all its days lie in the calendar. -/
def CalendarUnit.period? : CalendarUnit → Int → Option DateRange
  | .week, index => do
    return .between (← Date.ofNumber? (7 * index)) (← Date.ofNumber? (7 * index + 6))
  | .month, index => do
    return .between (← firstOfMonth? index) (← lastOfMonth? index)
  | .quarter, index => do
    return .between (← firstOfMonth? (3 * index)) (← lastOfMonth? (3 * index + 2))
  | .year, index => do
    return .between (← firstOfMonth? (12 * index)) (← lastOfMonth? (12 * index + 11))

/-- A day of the Gregorian calendar in any year, also one that no `Date` reaches. -/
structure GregorianDay where
  year : Int
  month : Nat
  day : Nat
  month_ge : 1 ≤ month
  month_le : month ≤ 12
  day_ge : 1 ≤ day
  day_le : day ≤ monthLength year month

def Date.gregorian (date : Date) : GregorianDay :=
  ⟨date.year, date.month, date.day, date.valid.month_ge, date.valid.month_le,
    date.valid.day_ge, date.valid.day_le⟩

def GregorianDay.OnCalendar (day : GregorianDay) : Prop :=
  -9999 ≤ day.year ∧ day.year ≤ 9999

def GregorianDay.number (day : GregorianDay) : Int :=
  daysBeforeYear day.year + daysBeforeMonth day.year day.month + (day.day - 1)

def GregorianDay.months (day : GregorianDay) : Int :=
  12 * day.year + (day.month - 1)

def CalendarUnit.indexOf : CalendarUnit → GregorianDay → Int
  | .week, day => day.number / 7
  | .month, day => day.months
  | .quarter, day => 4 * day.year + (day.month - 1) / 3
  | .year, day => day.year

theorem CalendarUnit.index_eq_indexOf (unit : CalendarUnit) (date : Date) :
    unit.index date = unit.indexOf date.gregorian := by
  cases unit <;> rfl

def CalendarUnit.Fits (unit : CalendarUnit) (index : Int) : Prop :=
  ∀ day : GregorianDay, unit.indexOf day = index → day.OnCalendar

theorem GregorianDay.exists_date (day : GregorianDay) (inside : day.OnCalendar) :
    ∃ date : Date, date.gregorian = day :=
  ⟨⟨day.year, day.month, day.day, inside.1, inside.2, day.month_ge, day.month_le, day.day_ge,
    day.day_le⟩, rfl⟩

theorem Date.gregorian_onCalendar (date : Date) : date.gregorian.OnCalendar :=
  ⟨date.valid.year_ge, date.valid.year_le⟩

theorem Date.gregorian_number (date : Date) : date.gregorian.number = date.number := rfl

theorem GregorianDay.number_bounds (day : GregorianDay) :
    daysBeforeYear day.year ≤ day.number ∧ day.number < daysBeforeYear (day.year + 1) :=
  dayNumber_bounds day.year day.month day.day day.month_ge day.month_le day.day_ge day.day_le

theorem monthDay_bounds (year : Int) (month months days : Nat) (ge : 1 ≤ month)
    (lt : daysBeforeMonth year month + days < daysBeforeMonth year (month + months + 1)) :
    month ≤ (monthDay year month months days).1 ∧
      (monthDay year month months days).1 ≤ month + months ∧
      1 ≤ (monthDay year month months days).2 ∧
      (monthDay year month months days).2 ≤
        monthLength year (monthDay year month months days).1 := by
  induction months generalizing month days with
  | zero =>
    rw [Nat.add_zero, daysBeforeMonth_succ year month ge] at lt
    simp only [monthDay]
    omega
  | succ months ih =>
    simp only [monthDay]
    split
    next short => simp; omega
    next long =>
      have next := daysBeforeMonth_succ year month ge
      have same : month + 1 + months + 1 = month + (months + 1) + 1 := by omega
      obtain ⟨lower, upper, rest⟩ := ih (month + 1) (days - monthLength year month) (by omega)
        (by rw [same]; omega)
      exact ⟨by omega, by omega, rest⟩

theorem GregorianDay.exists_number (number : Int) :
    ∃ day : GregorianDay, day.number = number := by
  have lower := daysBeforeYear_le_yearOfNumber number
  have upper := lt_daysBeforeYear_yearOfNumber_succ number
  rw [daysBeforeYear_succ] at upper
  generalize yearOfNumber number = year at lower upper
  have total := daysBeforeMonth_thirteen year
  have first := daysBeforeMonth_one year
  have within : daysBeforeMonth year 1 + (number - daysBeforeYear year).toNat <
      daysBeforeMonth year (1 + 11 + 1) := by
    rw [first, total]
    split at upper <;> simp_all <;> omega
  obtain ⟨month_ge, month_le, day_ge, day_le⟩ := monthDay_bounds year 1 11 _ (Nat.le_refl 1) within
  have sum := daysBeforeMonth_monthDay year 1 11 (number - daysBeforeYear year).toNat
    (Nat.le_refl 1)
  refine ⟨⟨year, _, _, month_ge, month_le, day_ge, day_le⟩, ?_⟩
  simp only [GregorianDay.number]
  omega

theorem GregorianDay.onCalendar_iff (day : GregorianDay) :
    day.OnCalendar ↔
      daysBeforeYear (-9999) ≤ day.number ∧ day.number < daysBeforeYear 10000 := by
  obtain ⟨lower, upper⟩ := day.number_bounds
  unfold GregorianDay.OnCalendar
  constructor
  · intro inside
    have first := daysBeforeYear_mono inside.1
    have last : daysBeforeYear (day.year + 1) ≤ daysBeforeYear 10000 :=
      daysBeforeYear_mono (by omega)
    omega
  · intro inside
    constructor
    · by_contra early
      have : daysBeforeYear (day.year + 1) ≤ daysBeforeYear (-9999) :=
        daysBeforeYear_mono (by omega)
      omega
    · by_contra late
      have : daysBeforeYear 10000 ≤ daysBeforeYear day.year := daysBeforeYear_mono (by omega)
      omega

theorem Date.exists_ofNumber? (number : Int) :
    (∃ date, Date.ofNumber? number = some date) ↔
      daysBeforeYear (-9999) ≤ number ∧ number < daysBeforeYear 10000 := by
  constructor
  · intro ⟨date, found⟩
    rw [Date.ofNumber?_eq_some] at found
    rw [← found, ← date.gregorian_number, ← date.gregorian.onCalendar_iff]
    exact date.gregorian_onCalendar
  · intro inside
    obtain ⟨day, rfl⟩ := GregorianDay.exists_number number
    obtain ⟨date, rfl⟩ := day.exists_date (day.onCalendar_iff.mpr inside)
    exact ⟨date, (Date.ofNumber?_eq_some _ date).mpr rfl⟩

theorem fits_week_iff (index : Int) :
    CalendarUnit.week.Fits index ↔
      daysBeforeYear (-9999) ≤ 7 * index ∧ 7 * index + 6 < daysBeforeYear 10000 := by
  constructor
  · intro fits
    obtain ⟨monday, first⟩ := GregorianDay.exists_number (7 * index)
    obtain ⟨sunday, last⟩ := GregorianDay.exists_number (7 * index + 6)
    have lower := monday.onCalendar_iff.mp (fits monday (by simp [CalendarUnit.indexOf, first]))
    have upper := sunday.onCalendar_iff.mp
      (fits sunday (by simp only [CalendarUnit.indexOf, last]; omega))
    omega
  · intro inside day same
    rw [day.onCalendar_iff]
    simp only [CalendarUnit.indexOf] at same
    omega

theorem exists_weekPeriod? (index : Int) :
    (∃ range, CalendarUnit.week.period? index = some range) ↔ CalendarUnit.week.Fits index := by
  have monday := Date.exists_ofNumber? (7 * index)
  have sunday := Date.exists_ofNumber? (7 * index + 6)
  have both : (∃ range, CalendarUnit.week.period? index = some range) ↔
      (∃ date, Date.ofNumber? (7 * index) = some date) ∧
        ∃ date, Date.ofNumber? (7 * index + 6) = some date := by
    cases first : Date.ofNumber? (7 * index) <;>
      cases last : Date.ofNumber? (7 * index + 6) <;>
      simp [CalendarUnit.period?, first, last]
  rw [both, monday, sunday, fits_week_iff]
  omega

theorem mem_weekPeriod? (index : Int) (range : DateRange)
    (found : CalendarUnit.week.period? index = some range) (date : Date) :
    date ∈ range ↔ CalendarUnit.week.index date = index := by
  simp only [CalendarUnit.period?, Option.bind_eq_bind, Option.bind_eq_some_iff,
    Option.pure_def, Option.some.injEq, Date.ofNumber?_eq_some] at found
  obtain ⟨monday, first, sunday, last, rfl⟩ := found
  have ordered : monday ≤ sunday := by
    rw [← Date.number_le_iff]
    omega
  rw [DateRange.mem_between ordered, ← Date.number_le_iff, ← Date.number_le_iff, first, last,
    CalendarUnit.index]
  omega

theorem Date.exists_of? (year : Int) (month day : Nat) :
    (∃ date, Date.of? year month day = some date) ↔ OnCalendar year month day := by
  unfold Date.of?
  split
  next valid => simp [valid]
  next invalid => simp [invalid]

theorem exists_firstOfMonth? (months : Int) :
    (∃ date, firstOfMonth? months = some date) ↔ -9999 ≤ months / 12 ∧ months / 12 ≤ 9999 := by
  rw [firstOfMonth?, Date.exists_of?]
  constructor
  · intro valid
    exact ⟨valid.year_ge, valid.year_le⟩
  · intro inside
    exact ⟨inside.1, inside.2, by omega, by omega, Nat.le_refl 1, monthLength_pos _ _⟩

theorem exists_lastOfMonth? (months : Int) :
    (∃ date, lastOfMonth? months = some date) ↔ -9999 ≤ months / 12 ∧ months / 12 ≤ 9999 := by
  rw [lastOfMonth?, Date.exists_of?]
  constructor
  · intro valid
    exact ⟨valid.year_ge, valid.year_le⟩
  · intro inside
    exact ⟨inside.1, inside.2, by omega, by omega, monthLength_pos _ _, Nat.le_refl _⟩

theorem firstOfMonth?_le (months : Int) (first date : Date)
    (found : firstOfMonth? months = some first) :
    first ≤ date ↔ months ≤ date.gregorian.months := by
  obtain ⟨year, month, day⟩ := (Date.of?_eq_some _ _ _ _).mp found
  have month_ge := date.valid.month_ge
  have day_ge := date.valid.day_ge
  have month_le := date.valid.month_le
  simp only [Date.le_def, Date.lt_def, GregorianDay.months, Date.gregorian, year, month, day]
  omega

theorem le_lastOfMonth? (months : Int) (last date : Date)
    (found : lastOfMonth? months = some last) :
    date ≤ last ↔ date.gregorian.months ≤ months := by
  obtain ⟨year, month, day⟩ := (Date.of?_eq_some _ _ _ _).mp found
  have month_ge := date.valid.month_ge
  have month_le := date.valid.month_le
  have within : date.year = last.year → date.month = last.month → date.day ≤ last.day := by
    intro sameYear sameMonth
    rw [day, ← month, ← year, ← sameYear, ← sameMonth]
    exact date.valid.day_le
  simp only [Date.le_def, Date.lt_def, GregorianDay.months, Date.gregorian]
  omega

def monthSpan? (first last : Int) : Option DateRange := do
  return .between (← firstOfMonth? first) (← lastOfMonth? last)

theorem exists_monthSpan? (first last : Int) :
    (∃ range, monthSpan? first last = some range) ↔
      (-9999 ≤ first / 12 ∧ first / 12 ≤ 9999) ∧ -9999 ≤ last / 12 ∧ last / 12 ≤ 9999 := by
  rw [← exists_firstOfMonth?, ← exists_lastOfMonth?]
  unfold monthSpan?
  cases firstOfMonth? first <;> cases lastOfMonth? last <;> simp

theorem mem_monthSpan? (first last : Int) (le : first ≤ last) (range : DateRange)
    (found : monthSpan? first last = some range) (date : Date) :
    date ∈ range ↔ first ≤ date.gregorian.months ∧ date.gregorian.months ≤ last := by
  simp only [monthSpan?, Option.bind_eq_bind, Option.bind_eq_some_iff, Option.pure_def,
    Option.some.injEq] at found
  obtain ⟨a, front, b, back, rfl⟩ := found
  have start := (firstOfMonth?_le first a a front).mp le_rfl
  have stop := (le_lastOfMonth? last b b back).mp le_rfl
  have ordered : a ≤ b := by
    rw [le_lastOfMonth? last b a back]
    obtain ⟨year, month, _⟩ := (Date.of?_eq_some _ _ _ _).mp front
    simp only [GregorianDay.months, Date.gregorian, year, month]
    omega
  rw [DateRange.mem_between ordered, firstOfMonth?_le first a date front,
    le_lastOfMonth? last b date back]

def GregorianDay.ofMonths (months : Int) : GregorianDay :=
  ⟨months / 12, (months % 12 + 1).toNat, 1, by omega, by omega, Nat.le_refl 1,
    monthLength_pos _ _⟩

theorem GregorianDay.months_ofMonths (months : Int) : (ofMonths months).months = months := by
  simp only [GregorianDay.months, ofMonths]
  omega

theorem GregorianDay.months_bounds (day : GregorianDay) :
    12 * day.year ≤ day.months ∧ day.months < 12 * day.year + 12 := by
  have ge := day.month_ge
  have le := day.month_le
  unfold GregorianDay.months
  omega

theorem months_onCalendar_iff (first last : Int) (le : first ≤ last) :
    (∀ day : GregorianDay, first ≤ day.months ∧ day.months ≤ last → day.OnCalendar) ↔
      (-9999 ≤ first / 12 ∧ first / 12 ≤ 9999) ∧ -9999 ≤ last / 12 ∧ last / 12 ≤ 9999 := by
  constructor
  · intro inside
    have front := inside (GregorianDay.ofMonths first) (by rw [GregorianDay.months_ofMonths]; omega)
    have back := inside (GregorianDay.ofMonths last) (by rw [GregorianDay.months_ofMonths]; omega)
    exact ⟨front, back⟩
  · intro bounds day within
    have := day.months_bounds
    unfold GregorianDay.OnCalendar
    omega

def CalendarUnit.monthBounds? : CalendarUnit → Int → Option (Int × Int)
  | .week, _ => none
  | .month, index => some (index, index)
  | .quarter, index => some (3 * index, 3 * index + 2)
  | .year, index => some (12 * index, 12 * index + 11)

theorem CalendarUnit.monthBounds?_le (unit : CalendarUnit) (index first last : Int)
    (bounds : unit.monthBounds? index = some (first, last)) : first ≤ last := by
  cases unit <;> simp [monthBounds?] at bounds <;> omega

theorem CalendarUnit.period?_eq_monthSpan? (unit : CalendarUnit) (index first last : Int)
    (bounds : unit.monthBounds? index = some (first, last)) :
    unit.period? index = monthSpan? first last := by
  cases unit <;> simp [monthBounds?] at bounds <;> obtain ⟨rfl, rfl⟩ := bounds <;> rfl

theorem CalendarUnit.indexOf_eq_iff (unit : CalendarUnit) (index first last : Int)
    (bounds : unit.monthBounds? index = some (first, last)) (day : GregorianDay) :
    unit.indexOf day = index ↔ first ≤ day.months ∧ day.months ≤ last := by
  have ge := day.month_ge
  have le := day.month_le
  cases unit <;> simp [monthBounds?] at bounds <;> obtain ⟨rfl, rfl⟩ := bounds <;>
    simp only [indexOf, GregorianDay.months] <;> omega

theorem CalendarUnit.eq_week (unit : CalendarUnit) (index : Int)
    (bounds : unit.monthBounds? index = none) : unit = .week := by
  cases unit <;> simp [monthBounds?] at bounds ⊢

theorem CalendarUnit.exists_period? (unit : CalendarUnit) (index : Int) :
    (∃ range, unit.period? index = some range) ↔ unit.Fits index := by
  cases bounds : unit.monthBounds? index with
  | none =>
    rw [unit.eq_week index bounds]
    exact exists_weekPeriod? index
  | some pair =>
    obtain ⟨first, last⟩ := pair
    rw [unit.period?_eq_monthSpan? index first last bounds, exists_monthSpan?,
      ← months_onCalendar_iff first last (unit.monthBounds?_le index first last bounds)]
    simp only [Fits, unit.indexOf_eq_iff index first last bounds]

theorem CalendarUnit.mem_period? (unit : CalendarUnit) (index : Int) (range : DateRange)
    (found : unit.period? index = some range) (date : Date) :
    date ∈ range ↔ unit.index date = index := by
  cases bounds : unit.monthBounds? index with
  | none =>
    rw [unit.eq_week index bounds] at found ⊢
    exact mem_weekPeriod? index range found date
  | some pair =>
    obtain ⟨first, last⟩ := pair
    rw [unit.period?_eq_monthSpan? index first last bounds] at found
    rw [mem_monthSpan? first last (unit.monthBounds?_le index first last bounds) range found,
      unit.index_eq_indexOf, unit.indexOf_eq_iff index first last bounds]

end TaskQuery
