import TaskQuery.Calendar.Date

set_option autoImplicit false

namespace TaskQuery

/-- Days from the first day of the year 1, a Monday, to the first day of `year`. -/
def daysBeforeYear (year : Int) : Int :=
  365 * (year - 1) + (year - 1) / 4 - (year - 1) / 100 + (year - 1) / 400

theorem daysBeforeYear_succ (year : Int) :
    daysBeforeYear (year + 1) = daysBeforeYear year + if Leap year then 366 else 365 := by
  by_cases leap : Leap year <;> simp only [leap, if_true, if_false] <;>
    unfold daysBeforeYear Leap at * <;> omega

theorem daysBeforeYear_add_le (year : Int) (years : Nat) :
    daysBeforeYear year + 365 * years ≤ daysBeforeYear (year + years) := by
  induction years with
  | zero => simp
  | succ years ih =>
    have next := daysBeforeYear_succ (year + years)
    rw [Int.natCast_add, ← Int.add_assoc]
    split at next <;> simp at * <;> omega

theorem daysBeforeYear_mono {a b : Int} (le : a ≤ b) : daysBeforeYear a ≤ daysBeforeYear b := by
  have bound := daysBeforeYear_add_le a (b - a).toNat
  rw [show a + ((b - a).toNat : Int) = b by omega] at bound
  omega

def daysBeforeMonth (year : Int) : Nat → Nat
  | 0 => 0
  | month + 1 => daysBeforeMonth year month + if month = 0 then 0 else monthLength year month

theorem daysBeforeMonth_succ (year : Int) (month : Nat) (ge : 1 ≤ month) :
    daysBeforeMonth year (month + 1) = daysBeforeMonth year month + monthLength year month := by
  rw [daysBeforeMonth, if_neg (by omega)]

theorem daysBeforeMonth_one (year : Int) : daysBeforeMonth year 1 = 0 := by
  simp [daysBeforeMonth]

theorem daysBeforeMonth_thirteen (year : Int) :
    daysBeforeMonth year 13 = if Leap year then 366 else 365 := by
  by_cases leap : Leap year <;> simp [daysBeforeMonth, monthLength, leap]

theorem daysBeforeMonth_mono (year : Int) {a b : Nat} (le : a ≤ b) :
    daysBeforeMonth year a ≤ daysBeforeMonth year b := by
  induction le with
  | refl => exact Nat.le_refl _
  | step _ ih => exact Nat.le_trans ih (Nat.le_add_right _ _)

def Date.number (date : Date) : Int :=
  daysBeforeYear date.year + daysBeforeMonth date.year date.month + (date.day - 1)

theorem dayNumber_bounds (year : Int) (month day : Nat) (month_ge : 1 ≤ month)
    (month_le : month ≤ 12) (ge : 1 ≤ day) (le : day ≤ monthLength year month) :
    daysBeforeYear year ≤ daysBeforeYear year + daysBeforeMonth year month + (day - 1) ∧
      daysBeforeYear year + daysBeforeMonth year month + (day - 1) < daysBeforeYear (year + 1) := by
  have month_end := daysBeforeMonth_succ year month month_ge
  have year_end := daysBeforeMonth_mono year (Nat.succ_le_succ month_le)
  have length := daysBeforeYear_succ year
  have total := daysBeforeMonth_thirteen year
  constructor
  next => omega
  next => split at length <;> simp_all <;> omega

theorem Date.number_bounds (date : Date) :
    daysBeforeYear date.year ≤ date.number ∧ date.number < daysBeforeYear (date.year + 1) :=
  dayNumber_bounds date.year date.month date.day date.valid.month_ge date.valid.month_le
    date.valid.day_ge date.valid.day_le

/-- The year that the day with a number lies in; the first guess is off by at most one. -/
def yearOfNumber (number : Int) : Int :=
  let guess := 400 * number / 146097 + 1
  if number < daysBeforeYear guess then guess - 1
  else if daysBeforeYear (guess + 1) ≤ number then guess + 1
  else guess

theorem daysBeforeYear_le_yearOfNumber (number : Int) :
    daysBeforeYear (yearOfNumber number) ≤ number := by
  unfold yearOfNumber daysBeforeYear
  dsimp only
  split
  next => omega
  next =>
    split
    next => omega
    next => omega

theorem lt_daysBeforeYear_yearOfNumber_succ (number : Int) :
    number < daysBeforeYear (yearOfNumber number + 1) := by
  unfold yearOfNumber daysBeforeYear
  dsimp only
  split
  next => omega
  next =>
    split
    next => omega
    next => omega

theorem yearOfNumber_eq (year number : Int) (ge : daysBeforeYear year ≤ number)
    (lt : number < daysBeforeYear (year + 1)) : yearOfNumber number = year := by
  have lower := daysBeforeYear_le_yearOfNumber number
  have upper := lt_daysBeforeYear_yearOfNumber_succ number
  rcases Int.lt_trichotomy (yearOfNumber number) year with earlier | same | later
  next =>
    have := daysBeforeYear_mono (Int.add_one_le_of_lt earlier)
    omega
  next => exact same
  next =>
    have := daysBeforeYear_mono (Int.add_one_le_of_lt later)
    omega

def monthDay (year : Int) (month : Nat) : (months : Nat) → (days : Nat) → Nat × Nat
  | 0, days => (month, days + 1)
  | months + 1, days =>
    if days < monthLength year month then (month, days + 1)
    else monthDay year (month + 1) months (days - monthLength year month)

theorem daysBeforeMonth_monthDay (year : Int) (month months days : Nat) (ge : 1 ≤ month) :
    daysBeforeMonth year (monthDay year month months days).1 +
      (monthDay year month months days).2 = daysBeforeMonth year month + days + 1 := by
  induction months generalizing month days with
  | zero => simp [monthDay]; omega
  | succ months ih =>
    simp only [monthDay]
    split
    next => simp; omega
    next =>
      rw [ih (month + 1) _ (by omega), daysBeforeMonth_succ year month ge]
      omega

theorem monthDay_eq (year : Int) (first months month day : Nat) (first_ge : 1 ≤ first)
    (ge : first ≤ month) (le : month ≤ first + months)
    (day_ge : 1 ≤ day) (day_le : day ≤ monthLength year month) :
    monthDay year first months
      (daysBeforeMonth year month + day - 1 - daysBeforeMonth year first) = (month, day) := by
  induction months generalizing first with
  | zero =>
    obtain rfl : month = first := by omega
    simp [monthDay]
    omega
  | succ months ih =>
    have first_succ := daysBeforeMonth_succ year first first_ge
    simp only [monthDay]
    split
    next short =>
      have : month = first := by
        by_cases later : first + 1 ≤ month
        next =>
          have := daysBeforeMonth_mono year later
          omega
        next => omega
      subst this
      simp
      omega
    next long =>
      have later : first + 1 ≤ month := by
        by_cases same : month = first
        next => subst same; omega
        next => omega
      have := ih (first + 1) (by omega) later (by omega)
      rw [← this]
      congr 1
      omega

def Date.ofNumber? (number : Int) : Option Date :=
  let year := yearOfNumber number
  let (month, day) := monthDay year 1 11 (number - daysBeforeYear year).toNat
  Date.of? year month day

theorem Date.ofNumber?_eq_some (number : Int) (date : Date) :
    ofNumber? number = some date ↔ date.number = number := by
  have valid := date.valid
  unfold ofNumber?
  simp only [of?_eq_some]
  constructor
  next =>
    rintro ⟨year, month, day⟩
    have sum := daysBeforeMonth_monthDay (yearOfNumber number) 1 11
      (number - daysBeforeYear (yearOfNumber number)).toNat (Nat.le_refl 1)
    rw [← month, ← day, daysBeforeMonth_one] at sum
    have lower := daysBeforeYear_le_yearOfNumber number
    have ge := valid.day_ge
    unfold Date.number
    rw [year]
    omega
  next =>
    rintro rfl
    have bounds := date.number_bounds
    rw [yearOfNumber_eq date.year date.number bounds.1 bounds.2]
    have days : (date.number - daysBeforeYear date.year).toNat =
        daysBeforeMonth date.year date.month + date.day - 1 - daysBeforeMonth date.year 1 := by
      have ge := valid.day_ge
      rw [daysBeforeMonth_one]
      unfold Date.number
      omega
    rw [days, monthDay_eq date.year 1 11 date.month date.day (Nat.le_refl 1) valid.month_ge
      (by have := valid.month_le; omega) valid.day_ge valid.day_le]
    exact ⟨rfl, rfl, rfl⟩

def Date.plusDays? (date : Date) (days : Int) : Option Date :=
  ofNumber? (date.number + days)

/-- How many days the week of a day has already had; a week starts on Monday. -/
def Date.weekday (date : Date) : Int :=
  date.number % 7

end TaskQuery
